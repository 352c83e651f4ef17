import TypedSql.Value

namespace TypedSql

namespace Binary64

theorem same_iff {x y : Binary64} :
    same x y = true ↔ x.isNaN = false ∧ y.isNaN = false ∧ (x = y ∨ x.isZero = true ∧ y.isZero = true) := by
  obtain ⟨x⟩ := x
  obtain ⟨y⟩ := y
  simp [same, and_assoc]

theorem same_symm {x y : Binary64} (h : same x y = true) : same y x = true := by
  obtain ⟨hx, hy, equal | ⟨zero, zero'⟩⟩ := same_iff.mp h
  · exact same_iff.mpr ⟨hy, hx, Or.inl equal.symm⟩
  · exact same_iff.mpr ⟨hy, hx, Or.inr ⟨zero', zero⟩⟩

theorem same_trans {x y z : Binary64} (h : same x y = true) (h' : same y z = true) : same x z = true := by
  obtain ⟨hx, _, first⟩ := same_iff.mp h
  obtain ⟨_, hz, second⟩ := same_iff.mp h'
  refine same_iff.mpr ⟨hx, hz, ?_⟩
  rcases first with rfl | ⟨zero, zero'⟩
  · exact second
  · rcases second with rfl | ⟨_, zero''⟩
    · exact Or.inr ⟨zero, zero'⟩
    · exact Or.inr ⟨zero, zero''⟩

end Binary64

namespace Json

mutual

theorem same_symm (a b : Json) (h : same a b = true) : same b a = true := by
  cases a with
  | null => cases b <;> simp_all [same]
  | bool x => cases b <;> simp_all [same]
  | integer x => cases b <;> simp_all [same]
  | double x =>
    cases b with
    | double y =>
      simp only [same] at h ⊢
      exact Binary64.same_symm h
    | _ => simp [same] at h
  | string x => cases b <;> simp_all [same]
  | array xs =>
    cases b with
    | array ys =>
      simp only [same] at h ⊢
      exact sameItems_symm xs ys h
    | _ => simp [same] at h
  | object xs =>
    cases b with
    | object ys =>
      simp only [same] at h ⊢
      exact sameMembers_symm xs ys h
    | _ => simp [same] at h

theorem sameItems_symm (as bs : List Json) (h : sameItems as bs = true) : sameItems bs as = true := by
  cases as with
  | nil => cases bs <;> simp_all [sameItems]
  | cons a as =>
    cases bs with
    | nil => simp [sameItems] at h
    | cons b bs =>
      simp only [sameItems, Bool.and_eq_true] at h ⊢
      exact ⟨same_symm a b h.1, sameItems_symm as bs h.2⟩

theorem sameMembers_symm (as bs : List (String × Json)) (h : sameMembers as bs = true) :
    sameMembers bs as = true := by
  cases as with
  | nil => cases bs <;> simp_all [sameMembers]
  | cons a as =>
    cases bs with
    | nil => simp [sameMembers] at h
    | cons b bs =>
      obtain ⟨n, a⟩ := a
      obtain ⟨m, b⟩ := b
      simp only [sameMembers, Bool.and_eq_true, beq_iff_eq] at h ⊢
      exact ⟨⟨h.1.1.symm, same_symm a b h.1.2⟩, sameMembers_symm as bs h.2⟩

end

mutual

theorem same_trans (a b c : Json) (h : same a b = true) (h' : same b c = true) : same a c = true := by
  cases a with
  | null =>
    cases b with
    | null => exact h'
    | _ => simp [same] at h
  | bool x =>
    cases b with
    | bool y =>
      have equal : x = y := by simpa [same] using h
      exact equal ▸ h'
    | _ => simp [same] at h
  | integer x =>
    cases b with
    | integer y =>
      have equal : x = y := by simpa [same] using h
      exact equal ▸ h'
    | _ => simp [same] at h
  | double x =>
    cases b with
    | double y =>
      cases c with
      | double z =>
        simp only [same] at h h' ⊢
        exact Binary64.same_trans h h'
      | _ => simp [same] at h'
    | _ => simp [same] at h
  | string x =>
    cases b with
    | string y =>
      have equal : x = y := by simpa [same] using h
      exact equal ▸ h'
    | _ => simp [same] at h
  | array xs =>
    cases b with
    | array ys =>
      cases c with
      | array zs =>
        simp only [same] at h h' ⊢
        exact sameItems_trans xs ys zs h h'
      | _ => simp [same] at h'
    | _ => simp [same] at h
  | object xs =>
    cases b with
    | object ys =>
      cases c with
      | object zs =>
        simp only [same] at h h' ⊢
        exact sameMembers_trans xs ys zs h h'
      | _ => simp [same] at h'
    | _ => simp [same] at h
termination_by structural a

theorem sameItems_trans (as bs cs : List Json) (h : sameItems as bs = true)
    (h' : sameItems bs cs = true) : sameItems as cs = true := by
  cases as with
  | nil => cases bs <;> simp_all [sameItems]
  | cons a as =>
    cases bs with
    | nil => simp [sameItems] at h
    | cons b bs =>
      cases cs with
      | nil => simp [sameItems] at h'
      | cons c cs =>
        simp only [sameItems, Bool.and_eq_true] at h h' ⊢
        exact ⟨same_trans a b c h.1 h'.1, sameItems_trans as bs cs h.2 h'.2⟩
termination_by structural as

theorem sameMembers_trans (as bs cs : List (String × Json)) (h : sameMembers as bs = true)
    (h' : sameMembers bs cs = true) : sameMembers as cs = true := by
  cases as with
  | nil => cases bs <;> simp_all [sameMembers]
  | cons a as =>
    cases bs with
    | nil => simp [sameMembers] at h
    | cons b bs =>
      cases cs with
      | nil => simp [sameMembers] at h'
      | cons c cs =>
        obtain ⟨n, a⟩ := a
        obtain ⟨m, b⟩ := b
        obtain ⟨k, c⟩ := c
        simp only [sameMembers, Bool.and_eq_true, beq_iff_eq] at h h' ⊢
        exact ⟨⟨h.1.1.trans h'.1.1, same_trans a b c h.1.2 h'.1.2⟩, sameMembers_trans as bs cs h.2 h'.2⟩
termination_by structural as

end

end Json

namespace Value

theorem same_symm {a b : Value} (h : same a b = true) : same b a = true := by
  cases a with
  | float x =>
    cases b with
    | float y => exact Binary64.same_symm h
    | _ => simp [same] at h
  | json x =>
    cases b with
    | json y => exact Json.same_symm x y h
    | _ => simp [same] at h
  | _ => cases b <;> simp_all [same]

theorem same_trans {a b c : Value} (h : same a b = true) (h' : same b c = true) : same a c = true := by
  cases a with
  | float x =>
    cases b with
    | float y =>
      cases c with
      | float z => exact Binary64.same_trans h h'
      | _ => simp [same] at h'
    | _ => simp [same] at h
  | json x =>
    cases b with
    | json y =>
      cases c with
      | json z => exact Json.same_trans x y z h h'
      | _ => simp [same] at h'
    | _ => simp [same] at h
  | _ => cases b <;> simp_all [same]

/-- Two values are one value, or they are the same where values are compared. -/
def Alike (a b : Value) : Prop := a = b ∨ (a == b) = true

theorem Alike.refl (a : Value) : a.Alike a := Or.inl rfl

theorem Alike.symm {a b : Value} (h : a.Alike b) : b.Alike a := h.imp Eq.symm same_symm

theorem Alike.trans {a b c : Value} (h : a.Alike b) (h' : b.Alike c) : a.Alike c := by
  rcases h with rfl | h
  · exact h'
  · rcases h' with rfl | h'
    · exact Or.inr h
    · exact Or.inr (same_trans h h')

end Value

end TypedSql
