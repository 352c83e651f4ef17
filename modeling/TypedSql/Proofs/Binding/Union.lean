import Mathlib.Data.List.Nodup
import TypedSql.Proofs.Binding
import TypedSql.Session

namespace TypedSql

/-- No name is bound on both sides to values that are not the same. -/
def Agree (front back : List (String × Value)) : Prop :=
  ∀ a ∈ front, ∀ b ∈ back, a.1 = b.1 → (a.2 == b.2) = true

namespace Agree

variable {front back more pairs : List (String × Value)}

theorem symm (h : Agree front back) : Agree back front :=
  fun b memB a memA same => Value.same_symm (h a memA b memB same.symm)

theorem comm (front back : List (String × Value)) : Agree front back ↔ Agree back front := ⟨symm, symm⟩

theorem append_right_iff : Agree front (back ++ more) ↔ Agree front back ∧ Agree front more := by
  simp only [Agree, List.forall_mem_append]
  exact ⟨fun h => ⟨fun a mem => (h a mem).1, fun a mem => (h a mem).2⟩, fun h a mem => ⟨h.1 a mem, h.2 a mem⟩⟩

theorem append_left_iff : Agree (front ++ back) more ↔ Agree front more ∧ Agree back more := by
  rw [comm, append_right_iff, comm more, comm more]

end Agree

namespace Parameters

variable {p q r m m' : Parameters} {entry : String × Value} {name : String} {failure : Failure}
  {pairs pairs' : List (String × Value)}

theorem ext_entries (h : p.entries = q.entries) : p = q := by
  cases p
  cases q
  congr

theorem clashes_eq_false_iff : p.clashes entry = false ↔ Agree p.entries [entry] := by
  unfold clashes
  constructor
  · intro free a mem b here same
    rw [List.mem_singleton.mp here] at same ⊢
    have held := Entries.find?_of_mem p.distinct mem
    rw [← same, held] at free
    simpa using free
  · intro agree
    cases held : Entries.find? entry.1 p.entries with
    | none => rfl
    | some value =>
      have same := agree (entry.1, value) (Entries.mem_of_find? held) entry (List.mem_singleton_self _) rfl
      simpa using same

theorem agree_iff_clashes : Agree p.entries pairs ↔ ∀ entry ∈ pairs, p.clashes entry = false := by
  simp only [clashes_eq_false_iff, Agree, List.mem_singleton, forall_eq]
  exact ⟨fun h b memB a memA => h a memA b memB, fun h a memA b memB => h b memB a memA⟩

theorem mergeDisjoint_eq_ok_iff : p.mergeDisjoint q = .ok m ↔ Agree p.entries q.entries ∧ m = p.merge q := by
  rw [agree_iff_clashes]
  constructor
  · exact fun merged => (mergeDisjoint_eq_ok merged).symm
  · rintro ⟨free, rfl⟩
    have none : q.entries.find? p.clashes = none :=
      List.find?_eq_none.mpr fun entry mem => by simp [free entry mem]
    simp only [mergeDisjoint, none]

theorem exists_mergeDisjoint_iff : (∃ m, p.mergeDisjoint q = .ok m) ↔ Agree p.entries q.entries := by
  simp only [mergeDisjoint_eq_ok_iff, exists_and_left, exists_eq, and_true]

/-- A merge that is refused names the first entry of the other side that does not agree. -/
theorem mergeDisjoint_eq_error_iff : p.mergeDisjoint q = .error failure ↔
    ∃ front entry back, q.entries = front ++ entry :: back ∧ Agree p.entries front ∧
      ¬Agree p.entries [entry] ∧ failure = .boundDifferently entry.1 := by
  have first : ∀ entry, q.entries.find? p.clashes = some entry ↔
      ∃ front back, q.entries = front ++ entry :: back ∧ Agree p.entries front ∧ ¬Agree p.entries [entry] := by
    intro entry
    simp only [List.find?_eq_some_iff_append, agree_iff_clashes, List.mem_singleton, forall_eq,
      Bool.not_eq_true', Bool.not_eq_false]
    exact ⟨fun ⟨clash, front, back, split, free⟩ => ⟨front, back, split, free, clash⟩,
      fun ⟨front, back, split, free, clash⟩ => ⟨clash, front, back, split, free⟩⟩
  constructor
  · intro refused
    unfold mergeDisjoint at refused
    split at refused
    next entry found =>
      obtain ⟨front, back, split, agree, clash⟩ := (first entry).mp found
      exact ⟨front, entry, back, split, agree, clash, (Except.error.inj refused).symm⟩
    next => cases refused
  · rintro ⟨front, entry, back, split, agree, clash, rfl⟩
    simp only [mergeDisjoint, (first entry).mpr ⟨front, back, split, agree, clash⟩]

theorem find?_merge (p q : Parameters) (name : String) :
    Entries.find? name (p.merge q).entries =
      (Entries.find? name q.entries).or (Entries.find? name p.entries) := by
  cases held : Entries.find? name q.entries with
  | some value => exact Entries.find?_putAll_of_mem q.distinct (Entries.mem_of_find? held)
  | none => exact Entries.find?_putAll_of_not_mem (Entries.find?_eq_none_iff.mp held)

/-- Those that were there keep their places, and the new ones follow in their order. -/
theorem names_merge (p q : Parameters) :
    (p.merge q).names = p.names ++ q.names.filter fun name => name ∉ p.names := by
  have entries : (p.merge q).entries = _ := Entries.putAll_eq p.distinct q.distinct
  unfold names
  rw [entries, List.map_append, List.map_map, List.filter_map]
  rfl

theorem mem_names_merge : name ∈ (p.merge q).names ↔ name ∈ p.names ∨ name ∈ q.names := by
  rw [names_merge, List.mem_append, List.mem_filter]
  by_cases there : name ∈ p.names <;> simp [there]

theorem merge_assoc (p q r : Parameters) : (p.merge q).merge r = p.merge (q.merge r) := by
  apply ext_entries
  apply Entries.ext ((p.merge q).merge r).distinct
  · have left : ((p.merge q).merge r).names = p.names ++ q.names.filter (fun name => name ∉ p.names) ++
        r.names.filter fun name => name ∉ (p.merge q).names := by
      rw [names_merge, names_merge]
    have right : (p.merge (q.merge r)).names =
        p.names ++ (q.names ++ r.names.filter fun name => name ∉ q.names).filter fun name => name ∉ p.names := by
      rw [names_merge, names_merge]
    have later : r.names.filter (fun name => name ∉ (p.merge q).names) =
        (r.names.filter fun name => name ∉ q.names).filter fun name => name ∉ p.names := by
      rw [List.filter_filter]
      apply List.filter_congr
      intro name _
      simp [mem_names_merge]
    change ((p.merge q).merge r).names = (p.merge (q.merge r)).names
    rw [left, right, later, List.filter_append, List.append_assoc]
  · intro name
    rw [find?_merge, find?_merge, find?_merge, find?_merge, Option.or_assoc]

theorem mem_merge_iff : entry ∈ (p.merge q).entries ↔
    entry ∈ q.entries ∨ entry ∈ p.entries ∧ entry.1 ∉ q.names := by
  obtain ⟨name, value⟩ := entry
  rw [Entries.mem_iff_find? (p.merge q).distinct, Entries.mem_iff_find? q.distinct,
    Entries.mem_iff_find? p.distinct, find?_merge]
  cases held : Entries.find? name q.entries with
  | some other =>
    have mem : name ∈ q.names := List.mem_map_of_mem (Entries.mem_of_find? held)
    simp [mem]
  | none =>
    have absent : name ∉ q.names := Entries.find?_eq_none_iff.mp held
    simp [absent]

/-- What agrees with a merge of two that agree, agrees with both: where both hold a name, their values are
the same, and so is any other that is the same as one of them. -/
theorem agree_merge_iff (agree : Agree p.entries q.entries) :
    Agree (p.merge q).entries pairs ↔ Agree p.entries pairs ∧ Agree q.entries pairs := by
  constructor
  · intro h
    have back : Agree q.entries pairs := fun a mem b => h a (mem_merge_iff.mpr (.inl mem)) b
    refine ⟨fun a mem b memB same => ?_, back⟩
    by_cases both : a.1 ∈ q.names
    · obtain ⟨c, memC, named⟩ := List.mem_map.mp both
      exact Value.same_trans (agree a mem c memC named.symm) (back c memC b memB (named.trans same))
    · exact h a (mem_merge_iff.mpr (.inr ⟨mem, both⟩)) b memB same
  · rintro ⟨front, back⟩ a mem
    rcases mem_merge_iff.mp mem with mem | ⟨mem, _⟩
    · exact back a mem
    · exact front a mem

/-- Names in some order, and under each values that are one or the same. -/
structure Alike (p q : Parameters) : Prop where
  names_perm : p.names.Perm q.names
  alike : ∀ a ∈ p.entries, ∀ b ∈ q.entries, a.1 = b.1 → a.2.Alike b.2

theorem Collects.self (p : Parameters) : p.Collects p.entries where
  names_eq := (Entries.eraseDups_names p.distinct).symm
  find? pair mem := ⟨pair.2, Entries.find?_of_mem p.distinct mem, .refl _⟩

theorem Collects.mem_names_iff (h : p.Collects pairs) : name ∈ p.names ↔ name ∈ pairs.map (·.1) := by
  rw [h.names_eq, List.mem_eraseDups]

theorem Collects.alike_of_mem (h : p.Collects pairs) {pair : String × Value} (mem : pair ∈ pairs)
    (held : entry ∈ p.entries) (same : entry.1 = pair.1) : entry.2.Alike pair.2 := by
  obtain ⟨value, found, alike⟩ := h.find? pair mem
  rw [← same, Entries.find?_of_mem p.distinct held] at found
  rwa [← Option.some.inj found] at alike

/-- The order in which pairs came makes a difference to the order of the names alone. -/
theorem Collects.alike (h : p.Collects pairs) (h' : q.Collects pairs') (same : pairs.Perm pairs') : p.Alike q where
  names_perm := by
    refine (List.perm_ext_iff_of_nodup p.distinct q.distinct).mpr fun name => ?_
    exact h.mem_names_iff.trans ((same.map (·.1)).mem_iff.trans h'.mem_names_iff.symm)
  alike a memA b memB named := by
    obtain ⟨pair, mem, own⟩ := List.mem_map.mp (h.mem_names_iff.mp (List.mem_map_of_mem memA))
    have front := h.alike_of_mem mem memA own.symm
    have back := h'.alike_of_mem (same.mem_iff.mp mem) memB (named.symm.trans own.symm)
    exact front.trans back.symm

/-- What agrees with the parameters that pairs came to, agrees with every pair. -/
theorem Collects.agree_iff (h : p.Collects pairs) : Agree p.entries pairs' ↔ Agree pairs pairs' := by
  constructor
  · intro agree a mem b memB same
    obtain ⟨value, found, alike⟩ := h.find? a mem
    have equal := agree (a.1, value) (Entries.mem_of_find? found) b memB same
    rcases alike with rfl | alike
    · exact equal
    · exact Value.same_trans (Value.same_symm alike) equal
  · intro agree a mem b memB same
    obtain ⟨pair, memPair, own⟩ := List.mem_map.mp (h.mem_names_iff.mp (List.mem_map_of_mem mem))
    have equal := agree pair memPair b memB (own.trans same)
    rcases h.alike_of_mem memPair mem own.symm with here | alike
    · rwa [here]
    · exact Value.same_trans alike equal

/-- Merges the second into the first, and the third into what these came to. -/
def mergeThree (p q r : Parameters) : Except Failure Parameters := (p.mergeDisjoint q).bind (·.mergeDisjoint r)

theorem mergeThree_eq_ok_iff : mergeThree p q r = .ok m ↔
    [p, q, r].Pairwise (fun a b => Agree a.entries b.entries) ∧ m = (p.merge q).merge r := by
  have pairwise : [p, q, r].Pairwise (fun a b => Agree a.entries b.entries) ↔
      (Agree p.entries q.entries ∧ Agree p.entries r.entries) ∧ Agree q.entries r.entries := by
    simp
  rw [pairwise, mergeThree]
  cases merged : p.mergeDisjoint q with
  | ok union =>
    obtain ⟨agree, rfl⟩ := mergeDisjoint_eq_ok_iff.mp merged
    simp only [Except.bind, mergeDisjoint_eq_ok_iff, agree_merge_iff agree, agree, true_and]
  | error failure =>
    have clash : ¬Agree p.entries q.entries := fun agree => by
      rw [mergeDisjoint_eq_ok_iff.mpr ⟨agree, rfl⟩] at merged
      cases merged
    simp [Except.bind, clash]

theorem exists_mergeThree_iff : (∃ m, mergeThree p q r = .ok m) ↔
    [p, q, r].Pairwise fun a b => Agree a.entries b.entries := by
  simp only [mergeThree_eq_ok_iff, exists_and_left, exists_eq, and_true]

theorem Collects.mergeThree (merged : mergeThree p q r = .ok m) :
    m.Collects ([p, q, r].flatMap (·.entries)) := by
  unfold Parameters.mergeThree at merged
  cases first : p.mergeDisjoint q with
  | error failure => rw [first] at merged; cases merged
  | ok union =>
    rw [first] at merged
    have both := ((Collects.self p).mergeDisjoint first).mergeDisjoint merged
    simpa using both

theorem bind_mergeDisjoint_eq_ok_iff : (q.mergeDisjoint r).bind p.mergeDisjoint = .ok m ↔
    [p, q, r].Pairwise (fun a b => Agree a.entries b.entries) ∧ m = p.merge (q.merge r) := by
  have pairwise : [p, q, r].Pairwise (fun a b => Agree a.entries b.entries) ↔
      Agree q.entries r.entries ∧ Agree q.entries p.entries ∧ Agree r.entries p.entries := by
    simp only [List.pairwise_cons, List.forall_mem_cons, Agree.comm p.entries]
    simp [and_comm]
  rw [pairwise]
  cases merged : q.mergeDisjoint r with
  | ok union =>
    obtain ⟨agree, rfl⟩ := mergeDisjoint_eq_ok_iff.mp merged
    simp only [Except.bind, mergeDisjoint_eq_ok_iff, Agree.comm p.entries, agree_merge_iff agree, agree,
      true_and]
  | error failure =>
    have clash : ¬Agree q.entries r.entries := fun agree => by
      rw [mergeDisjoint_eq_ok_iff.mpr ⟨agree, rfl⟩] at merged
      cases merged
    simp [Except.bind, clash]

/-- Where parameters are merged only if they agree, merging is a union: it depends on neither the order nor
the grouping whether it goes through, and the outcome depends on the order in the order of its names alone. -/
structure Unite (p q r : Parameters) : Prop where
  comm : (∃ m, p.mergeDisjoint q = .ok m) ↔ ∃ m, q.mergeDisjoint p = .ok m
  alike : ∀ m m', p.mergeDisjoint q = .ok m → q.mergeDisjoint p = .ok m' → m.Alike m'
  left_iff : (∃ m, mergeThree p q r = .ok m) ↔ [p, q, r].Pairwise fun a b => Agree a.entries b.entries
  right_iff : (∃ m, (q.mergeDisjoint r).bind p.mergeDisjoint = .ok m) ↔
    [p, q, r].Pairwise fun a b => Agree a.entries b.entries
  /-- Grouping makes no difference at all, not even to the order. -/
  assoc : ∀ m m', mergeThree p q r = .ok m → (q.mergeDisjoint r).bind p.mergeDisjoint = .ok m' → m = m'
  order : ∀ a b c, [p, q, r].Perm [a, b, c] →
    ((∃ m, mergeThree p q r = .ok m) ↔ ∃ m, mergeThree a b c = .ok m) ∧
    ∀ m m', mergeThree p q r = .ok m → mergeThree a b c = .ok m' → m.Alike m'
  names_eq : ∀ m, p.mergeDisjoint q = .ok m →
    m.names = p.names ++ q.names.filter fun name => name ∉ p.names
  get?_eq : ∀ m, p.mergeDisjoint q = .ok m → ∀ name, m.get? name = (q.get? name).or (p.get? name)
  error_iff : ∀ failure, p.mergeDisjoint q = .error failure ↔
    ∃ front entry back, q.entries = front ++ entry :: back ∧ Agree p.entries front ∧
      ¬Agree p.entries [entry] ∧ failure = .argument (entry.1 ++ " is already bound to a different value")

theorem unite (p q r : Parameters) : Unite p q r where
  comm := by rw [exists_mergeDisjoint_iff, exists_mergeDisjoint_iff, Agree.comm]
  alike m m' merged merged' :=
    ((Collects.self p).mergeDisjoint merged).alike ((Collects.self q).mergeDisjoint merged') List.perm_append_comm
  left_iff := exists_mergeThree_iff
  right_iff := by
    simp only [bind_mergeDisjoint_eq_ok_iff, exists_and_left, exists_eq, and_true]
  assoc m m' merged merged' := by
    obtain ⟨_, rfl⟩ := mergeThree_eq_ok_iff.mp merged
    obtain ⟨_, rfl⟩ := bind_mergeDisjoint_eq_ok_iff.mp merged'
    exact merge_assoc p q r
  order a b c same := by
    refine ⟨?_, fun m m' merged merged' => ?_⟩
    · rw [exists_mergeThree_iff, exists_mergeThree_iff, same.pairwise_iff Agree.symm]
    · exact (Collects.mergeThree merged).alike (Collects.mergeThree merged') (same.flatMap_right _)
  names_eq m merged := by
    rw [(mergeDisjoint_eq_ok_iff.mp merged).2, names_merge]
  get?_eq m merged name := by
    rw [(mergeDisjoint_eq_ok_iff.mp merged).2]
    exact find?_merge p q _
  error_iff failure := mergeDisjoint_eq_error_iff

end Parameters

end TypedSql
