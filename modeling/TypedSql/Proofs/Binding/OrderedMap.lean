import Mathlib.Data.List.Induction
import Mathlib.Data.List.Perm.Subperm
import TypedSql.Proofs.Binding.Union
import TypedSql.Proofs.Payload
import TypedSql.Proofs.Text.ByteOrder

namespace TypedSql

namespace Entries

variable {β : Type} {entries : List (String × β)}

theorem eraseDups_append_eraseDups (front back : List String) :
    (front ++ back.eraseDups).eraseDups = (front ++ back).eraseDups := by
  induction back using List.reverseRecOn with
  | nil => rfl
  | append_singleton back name ih =>
    have whole : (front ++ (back ++ [name])).eraseDups = _ :=
      (List.append_assoc front back [name]) ▸ eraseDups_concat (front ++ back) name
    rw [whole, eraseDups_concat back]
    by_cases there : name ∈ back
    · rw [if_pos there, if_pos (List.mem_append_right _ there), ih]
    · rw [if_neg there, ← List.append_assoc, eraseDups_concat, ih]
      simp only [List.mem_append, List.mem_eraseDups]

/-- It makes no difference whether entries are put one after the other or collected first. -/
theorem putAll_putAll (distinct : (entries.map (·.1)).Nodup) (added : List (String × β)) :
    putAll entries (putAll [] added) = putAll entries added := by
  have collected : ((putAll [] added).map (·.1)).Nodup := nodup_putAll .nil
  refine Entries.ext (nodup_putAll distinct) ?_ fun name => ?_
  · have own := (eraseDups_names distinct).symm
    rw [names_putAll own, names_putAll own, names_putAll_nil, eraseDups_append_eraseDups]
  · have last := find?_putAll name [] added
    rw [find?_putAll name entries added]
    cases given : (added.findRev? (·.1 = name)).map (·.2) with
    | some value =>
      rw [given] at last
      exact find?_putAll_of_mem collected (mem_of_find? last)
    | none =>
      rw [given] at last
      exact find?_putAll_of_not_mem (find?_eq_none_iff.mp last)

end Entries

namespace Parameters

variable {p q : Parameters} {payload : Payload} {fields : List (String × Json)}

theorem merge_eq_foldl (p q : Parameters) :
    p.merge q = q.entries.foldl (fun p entry => p.bind entry.1 entry.2) p := by
  have own : q.entries.map (fun entry => (Name.marked entry.1, entry.2)) = q.entries := by
    have same : ∀ entry ∈ q.entries, (Name.marked entry.1, entry.2) = entry :=
      fun entry mem => Prod.ext (q.marked entry mem) rfl
    rw [List.map_congr_left same, List.map_id']
  apply ext_entries
  rw [entries_foldl_bind, own]
  rfl

theorem ofList_append (front back : List (String × Value)) :
    ofList (front ++ back) = (ofList front).merge (ofList back) := by
  have split : (ofList (front ++ back)).entries = Entries.putAll (ofList front).entries
      (back.map fun pair => (Name.marked pair.1, pair.2)) := by
    rw [ofList, List.foldl_append, entries_foldl_bind]
    rfl
  apply ext_entries
  rw [split, ← Entries.putAll_putAll (ofList front).distinct, ← entries_ofList]
  rfl

theorem merge_ofList (pairs : List (String × Value)) (q : Parameters) :
    (ofList pairs).merge q = ofList (pairs ++ q.entries) := by
  rw [merge_eq_foldl, ofList, ofList, List.foldl_append]

theorem get?_of_mem {entry : String × Value} (mem : entry ∈ p.entries) : p.get? entry.1 = some entry.2 := by
  rw [get?, p.marked entry mem, Entries.find?_of_mem p.distinct mem]

theorem beq_iff_found : (p == q) = true ↔ p.entries.length = q.entries.length ∧ ∀ entry ∈ p.entries,
    ∃ value, Entries.find? entry.1 q.entries = some value ∧ (entry.2 == value) = true := by
  change same p q = true ↔ _
  simp only [same, Bool.and_eq_true, decide_eq_true_eq, List.all_eq_true, Option.any_eq_true]
  rfl

/-- Parameters are the same when they hold the same names, in any order, with the same value under each. -/
theorem beq_iff : (p == q) = true ↔ p.names.Perm q.names ∧
    ∀ name a b, p.get? name = some a → q.get? name = some b → (a == b) = true := by
  rw [beq_iff_found]
  constructor
  · rintro ⟨size, found⟩
    have there : p.names ⊆ q.names := by
      intro name mem
      obtain ⟨entry, memEntry, rfl⟩ := List.mem_map.mp mem
      obtain ⟨value, other, _⟩ := found entry memEntry
      exact List.mem_map_of_mem (f := (·.1)) (Entries.mem_of_find? other)
    refine ⟨?_, fun name a b foundA foundB => ?_⟩
    · refine (List.subperm_of_subset p.distinct there).perm_of_length_le ?_
      simpa only [names, List.length_map] using Nat.le_of_eq size.symm
    · obtain ⟨value, other, equal⟩ := found _ (Entries.mem_of_find? foundA)
      rw [Option.some.inj (foundB.symm.trans other)]
      exact equal
  · rintro ⟨perm, equal⟩
    refine ⟨by simpa only [names, List.length_map] using perm.length_eq, fun entry mem => ?_⟩
    have there : entry.1 ∈ q.names := perm.subset (List.mem_map_of_mem mem)
    obtain ⟨other, memOther, same⟩ := List.mem_map.mp there
    have found := same ▸ get?_of_mem memOther
    exact ⟨other.2, same ▸ Entries.find?_of_mem q.distinct memOther, equal _ _ _ (get?_of_mem mem) found⟩

/-- What is done to parameters: they are added to, or made anew. -/
inductive Edit where
  | bind (name : String) (value : Value)
  | merge (other : Parameters)
  | mergeDisjoint (other : Parameters)
  | clear
  | ofList (pairs : List (String × Value))
  | ofPayload (payload : Payload)

namespace Edit

/-- What an attempt answers and what it leaves, which is what was there where it fails. -/
def attempt (p : Parameters) : Except Failure Parameters → Except Failure Unit × Parameters
  | .ok made => (.ok (), made)
  | .error failure => (.error failure, p)

def perform (p : Parameters) : Edit → Except Failure Unit × Parameters
  | .bind name value => (.ok (), p.bind name value)
  | .merge other => (.ok (), p.merge other)
  | .mergeDisjoint other => attempt p (p.mergeDisjoint other)
  | .clear => (.ok (), .empty)
  | .ofList pairs => (.ok (), .ofList pairs)
  | .ofPayload payload => attempt p (payload.toJson.bind ofJson)

def performAll (p : Parameters) (edits : List Edit) : Parameters :=
  edits.foldl (fun p edit => (edit.perform p).2) p

/-- Whether a value is bound last under one of the names and is not the same as the one given there. -/
def differs (bound : List (String × Value)) (given : List (String × Value)) : Bool :=
  given.any fun entry => (lastBound? bound entry.1).any fun value => !(value == entry.2)

/-- What was bound since all was made anew, one after the other, under the names that were given. -/
def record (bound : List (String × Value)) : Edit → List (String × Value)
  | .bind name value => bound ++ [(name, value)]
  | .merge other => bound ++ other.entries
  | .mergeDisjoint other => if differs bound other.entries then bound else bound ++ other.entries
  | .clear => []
  | .ofList pairs => pairs
  | .ofPayload payload =>
    match payload.toJson with
    | .ok (.object members) => members.map fun member => (member.1, Value.ofJson member.2)
    | _ => bound

def recordAll (bound : List (String × Value)) (edits : List Edit) : List (String × Value) :=
  edits.foldl record bound

/-- A merge is refused where the values that were bound last say so. -/
theorem differs_iff {bound : List (String × Value)} {other : Parameters} :
    differs bound other.entries = true ↔
      ∃ failure, (Parameters.ofList bound).mergeDisjoint other = .error failure := by
  have clash : ∀ entry ∈ other.entries, ((lastBound? bound entry.1).any fun value => !(value == entry.2)) =
      (Parameters.ofList bound).clashes entry := by
    intro entry mem
    rw [clashes, ← get?_ofList, get?, other.marked entry mem]
  have found : differs bound other.entries = (other.entries.find? (Parameters.ofList bound).clashes).isSome := by
    rw [Bool.eq_iff_iff, List.find?_isSome, differs, List.any_eq_true]
    exact exists_congr fun entry => and_congr_right fun mem => by rw [clash entry mem]
  rw [found, Parameters.mergeDisjoint]
  cases other.entries.find? (Parameters.ofList bound).clashes with
  | none => simp
  | some entry => simp

/-- What an edit leaves of parameters that record what was bound, records what is bound then. -/
theorem perform_ofList (bound : List (String × Value)) (edit : Edit) :
    (edit.perform (.ofList bound)).2 = .ofList (edit.record bound) := by
  cases edit with
  | bind name value =>
    simp only [perform, record, Parameters.ofList, List.foldl_append, List.foldl_cons, List.foldl_nil]
  | merge other => exact merge_ofList bound other
  | mergeDisjoint other =>
    rw [perform, record]
    cases merged : (Parameters.ofList bound).mergeDisjoint other with
    | ok union =>
      have agree : ¬differs bound other.entries = true := fun clash => by
        obtain ⟨failure, refused⟩ := differs_iff.mp clash
        rw [merged] at refused
        cases refused
      rw [if_neg agree, (mergeDisjoint_eq_ok merged).1]
      exact merge_ofList bound other
    | error failure =>
      rw [if_pos (differs_iff.mpr ⟨failure, merged⟩)]
      rfl
  | clear => rfl
  | ofList pairs => rfl
  | ofPayload payload =>
    rw [perform, record]
    cases payload.toJson with
    | error failure => rfl
    | ok document => cases document <;> rfl

/-- What edits leave is what was bound, pair by pair, since all was made anew. -/
theorem performAll_ofList (bound : List (String × Value)) (edits : List Edit) :
    performAll (.ofList bound) edits = .ofList (recordAll bound edits) := by
  induction edits generalizing bound with
  | nil => rfl
  | cons edit rest ih =>
    rw [performAll, List.foldl_cons, perform_ofList]
    exact ih (edit.record bound)

theorem attempt_failed {made : Except Failure Parameters} {failure : Failure}
    (failed : (attempt p made).1 = .error failure) : (attempt p made).2 = p := by
  cases made with
  | ok q => cases failed
  | error refusal => rfl

theorem unchanged_of_failed {edit : Edit} {failure : Failure} (failed : (edit.perform p).1 = .error failure) :
    (edit.perform p).2 = p := by
  cases edit with
  | mergeDisjoint other => exact attempt_failed failed
  | ofPayload payload => exact attempt_failed failed
  | _ => cases failed

/-- The fields of an object are bound in the order of the bytes of their names, the last of equal names. -/
theorem perform_ofPayload (gives : payload.Gives fields) : ∃ members : List (String × Json),
    members.Pairwise (fun a b => Text.utf8 a.1 < Text.utf8 b.1) ∧
    (∀ name document, (name, document) ∈ members ↔
      (fields.findRev? (·.1 = name)).map (·.2) = some document) ∧
    (Edit.ofPayload payload).perform p =
      (.ok (), members.foldl (fun p member => p.bind member.1 (Value.ofJson member.2)) .empty) := by
  have sorted := Json.sorted_sortMembers fields
  refine ⟨Json.sortMembers fields, sorted.imp Text.utf8_lt_iff.mpr, fun name document => ?_, ?_⟩
  · rw [Entries.mem_iff_find? sorted.distinct, Json.find?_sortMembers]
  · have made : ofJson (Json.ofMembers fields) =
        .ok ((Json.sortMembers fields).foldl (fun p member => p.bind member.1 (Value.ofJson member.2)) .empty) := by
      rw [Json.ofMembers, ofJson, Parameters.ofList, List.foldl_map]
    have bound : payload.toJson.bind ofJson = ofJson (Json.ofMembers fields) := by
      rw [Payload.toJson_of_gives gives]
      rfl
    rw [perform, bound, made]
    rfl

end Edit

theorem names_bind_of_contains {name : String} (bound : p.contains name = true) (value : Value) :
    (p.bind name value).names = p.names := by
  have there : Name.marked name ∈ p.names := Entries.isSome_find?_iff.mp bound
  exact (Entries.names_put _ _ _).trans (if_pos there)

/-- Parameters as an ordered map of what was bound, one pair after the other, under either form of a name. -/
structure Maps (p : Parameters) (bound : List (String × Value)) : Prop where
  marked : ∀ name ∈ p.names, name.toList.head? = some '@'
  distinct : p.names.Nodup
  /-- Each name stands where it was bound first. -/
  names_eq : p.names = (bound.map fun pair => Name.marked pair.1).eraseDups
  get?_eq : ∀ name, p.get? name = lastBound? bound name
  contains_eq : ∀ name, p.contains name = (lastBound? bound name).isSome

theorem maps_ofList (bound : List (String × Value)) : (ofList bound).Maps bound where
  marked name mem := by
    rw [names_ofList, List.mem_eraseDups] at mem
    obtain ⟨pair, _, rfl⟩ := List.mem_map.mp mem
    exact Name.marked_startsWith pair.1
  distinct := (ofList bound).distinct
  names_eq := names_ofList bound
  get?_eq := get?_ofList bound
  contains_eq name := by rw [contains, get?_ofList]

/-- The laws by which parameters are bound, merged, made of an object and compared. -/
structure Laws (p q : Parameters) : Prop where
  rebind : ∀ name value, p.contains name = true → (p.bind name value).names = p.names
  ofList_append : ∀ front back, ofList (front ++ back) = (ofList front).merge (ofList back)
  merge_eq : p.merge q = q.entries.foldl (fun p entry => p.bind entry.1 entry.2) p
  failed : ∀ (edit : Edit) failure, (edit.perform p).1 = .error failure → (edit.perform p).2 = p
  /-- Whatever data is an object gives its fields, and they are bound in the order of the bytes of their names. -/
  given : ∀ (payload : Payload) members, payload.toJson = .ok (.object members) → Json.Sorted members →
    ∃ fields, payload.Gives fields
  object : ∀ payload fields, payload.Gives fields → ∃ members : List (String × Json),
    members.Pairwise (fun a b => Text.utf8 a.1 < Text.utf8 b.1) ∧
    (∀ name document, (name, document) ∈ members ↔
      (fields.findRev? (·.1 = name)).map (·.2) = some document) ∧
    (Edit.ofPayload payload).perform p =
      (.ok (), members.foldl (fun p member => p.bind member.1 (Value.ofJson member.2)) .empty)
  beq_iff : (p == q) = true ↔ p.names.Perm q.names ∧
    ∀ name a b, p.get? name = some a → q.get? name = some b → (a == b) = true

/-- Parameters are an ordered map under marked names: whatever was done to them, they hold the value bound last
under each name since they were made anew, in the order of the first binding. -/
theorem refines_ordered_map (edits : List Edit) (p q : Parameters) :
    (Edit.performAll .empty edits).Maps (Edit.recordAll [] edits) ∧ p.Laws q := by
  have run : Edit.performAll .empty edits = ofList (Edit.recordAll [] edits) := Edit.performAll_ofList [] edits
  refine ⟨run ▸ maps_ofList _, ?_⟩
  exact {
    rebind := fun name value bound => names_bind_of_contains bound value
    ofList_append := ofList_append
    merge_eq := merge_eq_foldl p q
    failed := fun edit failure failed => Edit.unchanged_of_failed failed
    given := fun payload members object sorted => payload.exists_gives object sorted
    object := fun payload fields gives => Edit.perform_ofPayload gives
    beq_iff := beq_iff }

/-- A name bound again in its other form, a merge that is refused and one that is not; and an object that gives
both forms of one name. -/
theorem refines_ordered_map_rebound :
    let edits : List Edit := [.ofList [("a", .int 1), ("b", .int 2)], .bind "@a" (.int 10),
      .mergeDisjoint (ofList [("c", .int 3), ("b", .null)]), .mergeDisjoint (ofList [("c", .int 3), ("a", .int 10)])]
    let p := Edit.performAll .empty edits
    let payload : Payload := .map [(.text "b", .null), (.text "a", .int 1), (.text "@a", .int 2), (.text "b", .int 3)]
    p.names = ["@a", "@b", "@c"] ∧ p.get? "a" = some (.int 10) ∧ p.contains "d" = false ∧
      ∃ members : List (String × Json), members.Pairwise (fun a b => Text.utf8 a.1 < Text.utf8 b.1) ∧
        ("b", Json.ofInt 3) ∈ members ∧
        ((Edit.ofPayload payload).perform p).2 =
          members.foldl (fun p member => p.bind member.1 (Value.ofJson member.2)) .empty := by
  intro edits p payload
  have a : Name.marked "a" = "@a" := by decide +kernel
  have a' : Name.marked "@a" = "@a" := by decide +kernel
  have b : Name.marked "b" = "@b" := by decide +kernel
  have c : Name.marked "c" = "@c" := by decide +kernel
  have bound : Edit.recordAll [] edits = [("a", .int 1), ("b", .int 2), ("@a", .int 10), ("@c", .int 3),
      ("@a", .int 10)] := by
    have other : (ofList [("c", .int 3), ("b", .null)]).entries = [("@c", .int 3), ("@b", .null)] := by
      simp [entries_ofList, Entries.putAll, Entries.put, b, c]
    have other' : (ofList [("c", .int 3), ("a", .int 10)]).entries = [("@c", .int 3), ("@a", .int 10)] := by
      simp [entries_ofList, Entries.putAll, Entries.put, a, c]
    let before : List (String × Value) := [("a", .int 1), ("b", .int 2), ("@a", .int 10)]
    have refused : Edit.differs before [("@c", .int 3), ("@b", .null)] = true := by decide +kernel
    have merged : Edit.differs before [("@c", .int 3), ("@a", .int 10)] = false := by decide +kernel
    simp [edits, Edit.recordAll, Edit.record, other, other', before, refused, merged]
  have gives : payload.Gives
      [("b", .null), ("a", Json.ofInt 1), ("@a", Json.ofInt 2), ("b", Json.ofInt 3)] :=
    .map (.cons ⟨rfl, rfl⟩ (.cons ⟨rfl, rfl⟩ (.cons ⟨rfl, rfl⟩ (.cons ⟨rfl, rfl⟩ .nil))))
  obtain ⟨maps, laws⟩ := refines_ordered_map edits p .empty
  obtain ⟨members, sorted, last, made⟩ := laws.object payload _ gives
  refine ⟨?_, ?_, ?_, members, sorted, (last _ _).mpr rfl, by rw [made]⟩
  · rw [maps.names_eq, bound]
    decide +kernel
  · rw [maps.get?_eq, bound]
    simp [lastBound?, List.findRev?, a, a']
  · rw [maps.contains_eq, bound]
    decide +kernel

end Parameters

end TypedSql
