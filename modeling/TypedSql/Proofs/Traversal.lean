import Mathlib.Data.List.Forall2

namespace TypedSql

variable {β γ ε : Type} {f : β → Except ε γ} {xs : List β} {ys : List γ} {e : ε}

theorem map_eq_ok_iff {answer : Except ε β} {g : β → γ} {c : γ} :
    answer.map g = .ok c ↔ ∃ b, answer = .ok b ∧ c = g b := by
  cases answer with
  | error e => exact ⟨nofun, fun ⟨_, failed, _⟩ => nomatch failed⟩
  | ok b =>
    constructor
    · intro h
      exact ⟨b, rfl, (Except.ok.inj h).symm⟩
    · rintro ⟨_, same, rfl⟩
      cases same
      rfl

theorem map_eq_error_iff {answer : Except ε β} {g : β → γ} : answer.map g = .error e ↔ answer = .error e := by
  cases answer with
  | error e' => exact ⟨fun h => congrArg _ (Except.error.inj h), fun h => congrArg _ (Except.error.inj h)⟩
  | ok b => exact ⟨nofun, nofun⟩

theorem map_map {δ : Type} (answer : Except ε β) (g : β → γ) (g' : γ → δ) :
    (answer.map g).map g' = answer.map fun b => g' (g b) := by
  cases answer <;> rfl

theorem mapM_cons_of_ok {x : β} {y : γ} (first : f x = .ok y) : (x :: xs).mapM f = (xs.mapM f).map (y :: ·) := by
  rw [List.mapM_cons, first]
  cases rest : xs.mapM f <;> rfl

theorem mapM_cons_of_error {x : β} (first : f x = .error e) : (x :: xs).mapM f = .error e := by
  rw [List.mapM_cons, first]
  rfl

theorem mapM_congr_of_forall₂ {others : List β} (alike : List.Forall₂ (fun x y => f y = f x) xs others) :
    others.mapM f = xs.mapM f := by
  induction alike with
  | nil => rfl
  | cons first _ ih => rw [List.mapM_cons, List.mapM_cons, first, ih]

/-- Items are taken in turn to the end exactly if each of them is taken. -/
theorem mapM_eq_ok_iff : xs.mapM f = .ok ys ↔ List.Forall₂ (fun x y => f x = .ok y) xs ys := by
  induction xs generalizing ys with
  | nil =>
    rw [List.forall₂_nil_left_iff]
    exact ⟨fun h => (Except.ok.inj h).symm, fun h => h ▸ rfl⟩
  | cons x xs ih =>
    rw [List.forall₂_cons_left_iff]
    cases first : f x with
    | error e =>
      rw [mapM_cons_of_error first]
      exact ⟨nofun, fun ⟨_, _, failed, _⟩ => nomatch failed⟩
    | ok y =>
      rw [mapM_cons_of_ok first, map_eq_ok_iff]
      constructor
      · rintro ⟨later, rest, whole⟩
        exact ⟨y, later, rfl, ih.mp rest, whole⟩
      · rintro ⟨_, later, taken, related, whole⟩
        cases taken
        exact ⟨later, ih.mpr related, whole⟩

/-- Where they are not, the failure is that of the first one that is not. -/
theorem mapM_eq_error_iff : xs.mapM f = .error e ↔
    ∃ before x after, xs = before ++ x :: after ∧ (∀ b ∈ before, ∃ y, f b = .ok y) ∧ f x = .error e := by
  induction xs with
  | nil => exact ⟨nofun, fun ⟨_, _, _, split, _⟩ => by simp at split⟩
  | cons x xs ih =>
    cases first : f x with
    | error e' =>
      rw [mapM_cons_of_error first]
      constructor
      · intro h
        exact ⟨[], x, xs, rfl, fun _ mem => absurd mem List.not_mem_nil, Except.error.inj h ▸ first⟩
      · rintro ⟨before, x', after, split, taken, failed⟩
        cases before with
        | nil =>
          cases split
          rw [first] at failed
          exact congrArg Except.error (Except.error.inj failed)
        | cons b before =>
          cases split
          obtain ⟨y, ok⟩ := taken x List.mem_cons_self
          rw [first] at ok
          cases ok
    | ok y =>
      rw [mapM_cons_of_ok first, map_eq_error_iff, ih]
      constructor
      · rintro ⟨before, x', after, rfl, taken, failed⟩
        exact ⟨x :: before, x', after, rfl, List.forall_mem_cons.mpr ⟨⟨y, first⟩, taken⟩, failed⟩
      · rintro ⟨before, x', after, split, taken, failed⟩
        cases before with
        | nil =>
          cases split
          rw [first] at failed
          cases failed
        | cons b before =>
          cases split
          exact ⟨before, x', after, rfl, fun b mem => taken b (List.mem_cons_of_mem _ mem), failed⟩

theorem exists_of_mapM_eq_error (h : xs.mapM f = .error e) : ∃ x ∈ xs, f x = .error e := by
  obtain ⟨before, x, after, rfl, _, failed⟩ := mapM_eq_error_iff.mp h
  exact ⟨x, List.mem_append_right before List.mem_cons_self, failed⟩

theorem mapM_eq_ok {g : β → γ} (each : ∀ x ∈ xs, f x = .ok (g x)) : xs.mapM f = .ok (xs.map g) :=
  mapM_eq_ok_iff.mpr (List.forall₂_map_right_iff.mpr (List.forall₂_same.mpr each))

end TypedSql
