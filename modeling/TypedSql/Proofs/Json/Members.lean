import TypedSql.Proofs.Binding

namespace TypedSql.Json

variable {name other : String} {value : Json} {members members' : List (String × Json)}

/-- Members in the order of their names, each name once. -/
def Sorted (members : List (String × Json)) : Prop := members.Pairwise fun a b => a.1 < b.1

theorem Sorted.distinct (sorted : Sorted members) : (members.map (·.1)).Nodup := by
  refine List.pairwise_map.mpr (List.Pairwise.imp ?_ sorted)
  intro a b less same
  rw [same] at less
  exact String.lt_irrefl _ less

theorem find?_insertMember (name other : String) (value : Json) (members : List (String × Json)) :
    Entries.find? other (insertMember name value members) =
      if name = other then some value else Entries.find? other members := by
  induction members with
  | nil => by_cases here : name = other <;> simp [Entries.find?, insertMember, here]
  | cons first rest ih =>
    obtain ⟨own, old⟩ := first
    unfold Entries.find? at ih ⊢
    unfold insertMember
    by_cases same : name = own
    · by_cases here : name = other
      · simp [same, here.symm.trans same]
      · have absent : own ≠ other := same ▸ here
        simp [same, absent]
    · rw [if_neg same]
      split
      next => by_cases here : name = other <;> simp [here]
      next =>
        rw [List.find?_cons, List.find?_cons]
        by_cases found : own = other
        · have absent : name ≠ other := fun here => same (here.trans found.symm)
          simp [found, absent]
        · simpa [found] using ih

theorem mem_names_insertMember :
    other ∈ (insertMember name value members).map (·.1) ↔ other = name ∨ other ∈ members.map (·.1) := by
  rw [← Entries.isSome_find?_iff, ← Entries.isSome_find?_iff, find?_insertMember]
  by_cases here : name = other
  · simp [here]
  · simp [here, Ne.symm here]

theorem sorted_insertMember (sorted : Sorted members) (name : String) (value : Json) :
    Sorted (insertMember name value members) := by
  induction members with
  | nil => exact List.pairwise_singleton _ _
  | cons first rest ih =>
    obtain ⟨own, old⟩ := first
    obtain ⟨least, later⟩ := List.pairwise_cons.mp sorted
    unfold insertMember
    split
    next same => exact List.pairwise_cons.mpr ⟨fun member mem => same ▸ least member mem, later⟩
    next other =>
      split
      next less =>
        refine List.pairwise_cons.mpr ⟨fun member mem => ?_, sorted⟩
        rcases List.mem_cons.mp mem with rfl | mem
        · exact less
        · exact String.lt_trans less (least member mem)
      next notLess =>
        refine List.pairwise_cons.mpr ⟨fun member mem => ?_, ih later⟩
        have named := mem_names_insertMember.mp (List.mem_map_of_mem (f := (·.1)) mem)
        rcases named with same | before
        · have greater := (Std.lt_trichotomy name own).resolve_left notLess
          exact same ▸ greater.resolve_left other
        · obtain ⟨there, memThere, same⟩ := List.mem_map.mp before
          exact same ▸ least there memThere

theorem sorted_sortMembers (given : List (String × Json)) : Sorted (sortMembers given) := by
  have grown : ∀ members, Sorted members →
      Sorted (given.foldl (fun sorted member => insertMember member.1 member.2 sorted) members) := by
    induction given with
    | nil => exact fun _ sorted => sorted
    | cons first rest ih => exact fun _ sorted => ih _ (sorted_insertMember sorted first.1 first.2)
  exact grown [] .nil

/-- Of the contents given under a name the last one is found. -/
theorem find?_sortMembers (name : String) (given : List (String × Json)) :
    Entries.find? name (sortMembers given) = (given.findRev? (·.1 = name)).map (·.2) := by
  have grown : ∀ members, Entries.find? name
      (given.foldl (fun sorted member => insertMember member.1 member.2 sorted) members) =
        ((given.findRev? (·.1 = name)).map (·.2)).or (Entries.find? name members) := by
    induction given with
    | nil => exact fun _ => rfl
    | cons first rest ih =>
      intro members
      rw [List.foldl_cons, ih, find?_insertMember, List.findRev?]
      cases rest.findRev? (·.1 = name) with
      | some later => rfl
      | none => by_cases same : first.1 = name <;> simp [same]
  rw [sortMembers, grown]
  simp [Entries.find?]

/-- Sorted members are determined by what is found under each name. -/
theorem Sorted.ext (sorted : Sorted members) (sorted' : Sorted members')
    (found : ∀ name, Entries.find? name members = Entries.find? name members') : members = members' := by
  have names : members.map (·.1) = members'.map (·.1) := by
    have perm : (members.map (·.1)).Perm (members'.map (·.1)) := by
      refine (List.perm_ext_iff_of_nodup sorted.distinct sorted'.distinct).mpr fun name => ?_
      rw [← Entries.isSome_find?_iff, ← Entries.isSome_find?_iff, found]
    refine List.Perm.eq_of_pairwise ?_ (List.pairwise_map.mpr sorted) (List.pairwise_map.mpr sorted') perm
    exact fun a b _ _ less greater => absurd greater (String.lt_asymm less)
  exact Entries.ext sorted.distinct names found

theorem Sorted.sortMembers_eq (sorted : Sorted members) : sortMembers members = members := by
  refine (sorted_sortMembers members).ext sorted fun name => ?_
  rw [find?_sortMembers, Entries.findRev?_of_distinct sorted.distinct]

end TypedSql.Json
