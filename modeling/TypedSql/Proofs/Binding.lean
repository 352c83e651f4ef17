import TypedSql.Parameters
import TypedSql.Proofs.Sameness

namespace TypedSql

theorem findRev?_map {α β : Type} (f : α → β) (p : β → Bool) (items : List α) :
    (items.map f).findRev? p = (items.findRev? (p ∘ f)).map f := by
  rw [List.findRev?_eq_find?_reverse, List.findRev?_eq_find?_reverse, ← List.map_reverse, List.find?_map]

namespace Entries

variable {β : Type} {name : String} {value : β} {entries added others : List (String × β)}

theorem eraseDups_concat (names : List String) (name : String) :
    (names ++ [name]).eraseDups =
      if name ∈ names then names.eraseDups else names.eraseDups ++ [name] := by
  rw [List.eraseDups_append, List.cons_removeAll, List.nil_removeAll]
  by_cases mem : name ∈ names
  · simp [mem]
  · simp [mem, List.eraseDups_cons]

theorem names_putAll {names : List String} (h : entries.map (·.1) = names.eraseDups) :
    (putAll entries added).map (·.1) = (names ++ added.map (·.1)).eraseDups := by
  unfold putAll
  induction added generalizing entries names with
  | nil => simpa using h
  | cons first rest ih =>
    have here : (put first.1 first.2 entries).map (·.1) = (names ++ [first.1]).eraseDups := by
      rw [names_put, h, eraseDups_concat]
      simp only [List.mem_eraseDups]
    rw [List.foldl_cons, ih here, List.map_cons, List.append_assoc, List.singleton_append]

/-- Collected entries have each name once, in the order of the first of its entries. -/
theorem names_putAll_nil (added : List (String × β)) :
    (putAll [] added).map (·.1) = (added.map (·.1)).eraseDups := by
  have names : (putAll [] added).map (·.1) = (([] : List String) ++ added.map (·.1)).eraseDups := names_putAll rfl
  rwa [List.nil_append] at names

theorem find?_putAll_of_not_mem (h : name ∉ added.map (·.1)) :
    find? name (putAll entries added) = find? name entries := by
  unfold putAll
  induction added generalizing entries with
  | nil => rfl
  | cons first rest ih =>
    rw [List.map_cons, List.mem_cons, not_or] at h
    rw [List.foldl_cons, ih h.2, find?_put, if_neg (Ne.symm h.1)]

theorem find?_putAll_of_mem (distinct : (added.map (·.1)).Nodup) (h : (name, value) ∈ added) :
    find? name (putAll entries added) = some value := by
  induction added generalizing entries with
  | nil => simp at h
  | cons first rest ih =>
    rw [List.map_cons, List.nodup_cons] at distinct
    rcases List.mem_cons.mp h with rfl | later
    · have others : find? name (putAll (put name value entries) rest) = find? name (put name value entries) :=
        find?_putAll_of_not_mem distinct.1
      have whole : putAll entries ((name, value) :: rest) = putAll (put name value entries) rest := rfl
      rw [whole, others, find?_put, if_pos rfl]
    · exact ih distinct.2 later

/-- Of the values that are put under a name the last one is found. -/
theorem find?_putAll (name : String) (entries added : List (String × β)) :
    find? name (putAll entries added) =
      ((added.findRev? (·.1 = name)).map (·.2)).or (find? name entries) := by
  induction added generalizing entries with
  | nil => rfl
  | cons first rest ih =>
    have step : putAll entries (first :: rest) = putAll (put first.1 first.2 entries) rest := rfl
    rw [step, ih, find?_put, List.findRev?]
    cases rest.findRev? (·.1 = name) with
    | some later => rfl
    | none => by_cases same : first.1 = name <;> simp [same]

theorem find?_of_mem (distinct : (entries.map (·.1)).Nodup) (h : (name, value) ∈ entries) :
    find? name entries = some value := by
  induction entries with
  | nil => simp at h
  | cons first rest ih =>
    rw [List.map_cons, List.nodup_cons] at distinct
    rcases List.mem_cons.mp h with rfl | later
    · simp [find?]
    · have other : first.1 ≠ name := by
        intro same
        exact distinct.1 (same ▸ List.mem_map_of_mem later)
      have := ih distinct.2 later
      simpa [find?, other] using this

theorem mem_of_find? (found : find? name entries = some value) : (name, value) ∈ entries := by
  obtain ⟨entry, there, rfl⟩ := Option.map_eq_some_iff.mp found
  have same : entry.1 = name := by simpa using List.find?_some there
  rw [← same]
  exact List.mem_of_find?_eq_some there

theorem mem_iff_find? (distinct : (entries.map (·.1)).Nodup) :
    (name, value) ∈ entries ↔ find? name entries = some value :=
  ⟨find?_of_mem distinct, mem_of_find?⟩

theorem find?_of_perm (perm : entries.Perm others) (distinct : (entries.map (·.1)).Nodup) (name : String) :
    find? name others = find? name entries := by
  have distinct' : (others.map (·.1)).Nodup := (perm.map _).nodup distinct
  refine Option.ext fun value => ?_
  rw [← mem_iff_find? distinct', ← mem_iff_find? distinct, perm.mem_iff]

theorem find?_eq_none_iff : find? name entries = none ↔ name ∉ entries.map (·.1) := by
  rw [find?, Option.map_eq_none_iff, List.find?_eq_none]
  simp only [List.mem_map, not_exists, not_and, decide_eq_true_eq]

theorem isSome_find?_iff : (find? name entries).isSome = true ↔ name ∈ entries.map (·.1) := by
  cases found : find? name entries with
  | none => simpa using find?_eq_none_iff.mp found
  | some value => exact iff_of_true rfl (List.mem_map_of_mem (mem_of_find? found))

/-- Entries of distinct names are determined by their names and what is found under each. -/
theorem ext (distinct : (entries.map (·.1)).Nodup) (names : entries.map (·.1) = others.map (·.1))
    (found : ∀ name, find? name entries = find? name others) : entries = others := by
  induction entries generalizing others with
  | nil => exact (List.map_eq_nil_iff.mp names.symm).symm
  | cons first rest ih =>
    cases others with
    | nil => simp at names
    | cons first' rest' =>
      rw [List.map_cons, List.map_cons, List.cons.injEq] at names
      rw [List.map_cons, List.nodup_cons] at distinct
      have head : first = first' := by
        have := found first.1
        simp only [find?, List.find?_cons, names.1, decide_true, Option.map_some, Option.some.injEq] at this
        exact Prod.ext names.1 this
      rw [head, ih distinct.2 names.2]
      intro name
      by_cases here : name = first.1
      · have absent : name ∉ rest.map (·.1) := here ▸ distinct.1
        rw [find?_eq_none_iff.mpr absent, find?_eq_none_iff.mpr (names.2 ▸ absent)]
      · have := found name
        simpa [find?, ← head, Ne.symm here] using this

theorem put_of_not_mem (absent : name ∉ entries.map (·.1)) (value : β) :
    put name value entries = entries ++ [(name, value)] := by
  induction entries with
  | nil => rfl
  | cons first rest ih =>
    rw [List.map_cons, List.mem_cons, not_or] at absent
    rw [put, if_neg (Ne.symm absent.1), ih absent.2, List.cons_append]

theorem put_of_mem (distinct : (entries.map (·.1)).Nodup) (present : name ∈ entries.map (·.1)) (value : β) :
    put name value entries = entries.map fun entry => (entry.1, if entry.1 = name then value else entry.2) := by
  induction entries with
  | nil => cases present
  | cons first rest ih =>
    rw [List.map_cons, List.nodup_cons] at distinct
    rw [List.map_cons, put]
    by_cases same : first.1 = name
    · have others : ∀ entry ∈ rest, (entry.1, if entry.1 = name then value else entry.2) = entry := by
        intro entry mem
        have other : entry.1 ≠ name := fun again => distinct.1 (same ▸ again ▸ List.mem_map_of_mem mem)
        rw [if_neg other]
      rw [if_pos same, if_pos same, List.map_congr_left others, List.map_id', same]
    · have later : name ∈ rest.map (·.1) := by
        rw [List.map_cons, List.mem_cons] at present
        exact present.resolve_left (Ne.symm same)
      rw [if_neg same, if_neg same, ih distinct.2 later]

/-- Entries that are put behind one another: those that were there keep their places, and what is new comes
behind them. -/
theorem putAll_eq (distinct : (entries.map (·.1)).Nodup) (distinct' : (added.map (·.1)).Nodup) :
    putAll entries added =
      entries.map (fun entry => (entry.1, (find? entry.1 added).getD entry.2)) ++
        added.filter fun entry => entry.1 ∉ entries.map (·.1) := by
  induction added generalizing entries with
  | nil => simp [putAll, find?]
  | cons first rest ih =>
    rw [List.map_cons, List.nodup_cons] at distinct'
    have step : putAll entries (first :: rest) = putAll (put first.1 first.2 entries) rest := rfl
    have found : ∀ name, find? name (first :: rest) =
        if first.1 = name then some first.2 else find? name rest := by
      intro name
      by_cases same : first.1 = name <;> simp [find?, same]
    have gone : find? first.1 rest = none := by
      rw [find?, Option.map_eq_none_iff, List.find?_eq_none]
      intro entry mem same
      exact distinct'.1 (of_decide_eq_true same ▸ List.mem_map_of_mem mem)
    rw [step, ih (nodup_put distinct) distinct'.2]
    by_cases present : first.1 ∈ entries.map (·.1)
    · have names : (put first.1 first.2 entries).map (·.1) = entries.map (·.1) := by
        rw [names_put, if_pos present]
      rw [names, List.filter_cons_of_neg (by simpa using present), put_of_mem distinct present, List.map_map]
      congr 1
      apply List.map_congr_left
      intro entry _
      by_cases same : entry.1 = first.1
      · simp [found, same, gone]
      · simp [found, same, Ne.symm same]
    · have names : (put first.1 first.2 entries).map (·.1) = entries.map (·.1) ++ [first.1] := by
        rw [names_put, if_neg present]
      have same : ∀ entry ∈ entries,
          (entry.1, (find? entry.1 rest).getD entry.2) =
            (entry.1, (find? entry.1 (first :: rest)).getD entry.2) := by
        intro entry mem
        have other : first.1 ≠ entry.1 := fun same => present (same ▸ List.mem_map_of_mem mem)
        rw [found, if_neg other]
      have kept : rest.filter (fun entry => entry.1 ∉ entries.map (·.1) ++ [first.1]) =
          rest.filter fun entry => entry.1 ∉ entries.map (·.1) := by
        apply List.filter_congr
        intro entry mem
        have other : entry.1 ≠ first.1 := fun same => distinct'.1 (same ▸ List.mem_map_of_mem mem)
        simp [other]
      rw [names, kept, put_of_not_mem present, List.map_append, List.map_congr_left same, List.map_singleton, gone,
        List.filter_cons_of_pos (by simpa using present), List.append_assoc, List.singleton_append]
      rfl

/-- Entries of different names stay as they are. -/
theorem putAll_nil (distinct : (added.map (·.1)).Nodup) : putAll [] added = added := by
  have nothing : (([] : List (String × β)).map (·.1)).Nodup := .nil
  rw [putAll_eq nothing distinct, List.map_nil, List.nil_append]
  exact List.filter_eq_self.mpr fun _ _ => by simp

theorem eraseDups_names (distinct : (entries.map (·.1)).Nodup) :
    (entries.map (·.1)).eraseDups = entries.map (·.1) := by
  rw [← names_putAll_nil, putAll_nil distinct]

/-- Among entries of distinct names the last one of a name is the first. -/
theorem findRev?_of_distinct (distinct : (entries.map (·.1)).Nodup) (name : String) :
    (entries.findRev? (·.1 = name)).map (·.2) = find? name entries := by
  have last := find?_putAll name [] entries
  rw [putAll_nil distinct] at last
  simpa [find?] using last.symm

end Entries

namespace Parameters

variable {p q other : Parameters} {pairs : List (String × Value)}

theorem entries_foldl_bind (p : Parameters) (pairs : List (String × Value)) :
    (pairs.foldl (fun p pair => p.bind pair.1 pair.2) p).entries =
      Entries.putAll p.entries (pairs.map fun pair => (Name.marked pair.1, pair.2)) := by
  induction pairs generalizing p with
  | nil => rfl
  | cons pair rest ih => exact ih (p.bind pair.1 pair.2)

theorem entries_ofList (pairs : List (String × Value)) :
    (ofList pairs).entries = Entries.putAll [] (pairs.map fun pair => (Name.marked pair.1, pair.2)) :=
  entries_foldl_bind .empty pairs

/-- The value that was bound last under a name, in whichever of its forms. -/
def lastBound? (pairs : List (String × Value)) (name : String) : Option Value :=
  (pairs.findRev? fun pair => Name.marked pair.1 = Name.marked name).map (·.2)

theorem lastBound?_map {α : Type} (f : α → Value) (given : List (String × α)) (name : String) :
    lastBound? (given.map fun pair => (pair.1, f pair.2)) name =
      (given.findRev? fun pair => Name.marked pair.1 = Name.marked name).map fun pair => f pair.2 := by
  rw [lastBound?, findRev?_map, Option.map_map]
  rfl

theorem names_ofList (pairs : List (String × Value)) :
    (ofList pairs).names = (pairs.map fun pair => Name.marked pair.1).eraseDups := by
  rw [names, entries_ofList, Entries.names_putAll_nil, List.map_map]
  rfl

theorem get?_ofList (pairs : List (String × Value)) (name : String) :
    (ofList pairs).get? name = lastBound? pairs name := by
  have marked : ((pairs.map fun pair => (Name.marked pair.1, pair.2)).findRev? (·.1 = Name.marked name)).map (·.2) =
      lastBound? pairs name := by
    rw [findRev?_map, Option.map_map]
    rfl
  rw [get?, entries_ofList, Entries.find?_putAll, marked]
  simp [Entries.find?]

/-- What was bound, pair by pair, is held: each name once, in the order in which the names first came,
and with a value alike to every value that was bound to it. -/
structure Collects (p : Parameters) (pairs : List (String × Value)) : Prop where
  names_eq : p.names = (pairs.map (·.1)).eraseDups
  find? : ∀ pair ∈ pairs, ∃ value, Entries.find? pair.1 p.entries = some value ∧ value.Alike pair.2

theorem Collects.empty : Collects .empty [] := ⟨rfl, by simp⟩

theorem mergeDisjoint_eq_ok (h : p.mergeDisjoint other = .ok q) :
    q = p.merge other ∧ ∀ entry ∈ other.entries, p.clashes entry = false := by
  unfold mergeDisjoint at h
  split at h
  next => simp at h
  next none =>
    refine ⟨(Except.ok.inj h).symm, fun entry mem => ?_⟩
    simpa using List.find?_eq_none.mp none entry mem

theorem Collects.mergeDisjoint (h : p.Collects pairs) (merged : p.mergeDisjoint other = .ok q) :
    q.Collects (pairs ++ other.entries) := by
  obtain ⟨rfl, agree⟩ := mergeDisjoint_eq_ok merged
  refine ⟨?_, ?_⟩
  · rw [List.map_append]
    exact Entries.names_putAll h.names_eq
  · intro pair mem
    by_cases again : pair.1 ∈ other.entries.map (·.1)
    · obtain ⟨entry, there, same⟩ := List.mem_map.mp again
      have holds : Entries.find? pair.1 (p.merge other).entries = some entry.2 := by
        rw [← same]
        exact Entries.find?_putAll_of_mem other.distinct there
      refine ⟨entry.2, holds, ?_⟩
      -- A name bound before now holds the later value, which the check found to be the same.
      rcases List.mem_append.mp mem with before | now
      · obtain ⟨value, held, alike⟩ := h.find? pair before
        have free := agree entry there
        unfold clashes at free
        rw [same, held] at free
        have equal : (value == entry.2) = true := by simpa using free
        exact (Value.Alike.symm (Or.inr equal)).trans alike
      · have own : Entries.find? pair.1 other.entries = some pair.2 :=
          Entries.find?_of_mem other.distinct now
        have found : Entries.find? pair.1 other.entries = some entry.2 := by
          rw [← same]
          exact Entries.find?_of_mem other.distinct there
        rw [Option.some.inj (own.symm.trans found)]
        exact .refl _
    · have old : pair ∈ pairs := by
        rcases List.mem_append.mp mem with before | now
        · exact before
        · exact absurd (List.mem_map_of_mem now) again
      obtain ⟨value, held, alike⟩ := h.find? pair old
      exact ⟨value, (Entries.find?_putAll_of_not_mem again).trans held, alike⟩

end Parameters

end TypedSql
