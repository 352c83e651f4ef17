import TypedSql.Proofs.Connection.Discipline
import TypedSql.Proofs.Session.Account

namespace TypedSql

inductive Ending where
  | dispose
  | drop

variable {σ α : Type} {layer : DataLayer σ} {target : String} {first last : Nat} {held : Option Handle}
  {events : List Event}

def Ending.perform (layer : DataLayer σ) (s : Session) : Ending → Action σ Unit
  | .dispose => do
    let _ ← s.dispose layer
  | .drop => s.drop layer

theorem Ending.perform_world (layer : DataLayer σ) (s : Session) (ending : Ending) (w : World σ) :
    (ending.perform layer s w).2 = (s.rollback layer w).2 := by
  cases ending with
  | dispose => rfl
  | drop => exact s.drop_world layer w

namespace Session

/-- A session from its creation to its end. -/
def lifetime (layer : DataLayer σ) (target : String) (uses : List (Use α)) (ending : Ending) :
    Action σ Unit := do
  let s ← Use.performAll layer (.new target) uses
  ending.perform layer s

theorem lifetime_world (layer : DataLayer σ) (target : String) (uses : List (Use α)) (ending : Ending)
    (w : World σ) :
    (lifetime layer target uses ending w).2 =
      ((Use.performAll layer (.new target) uses w).1.rollback layer
        (Use.performAll layer (.new target) uses w).2).2 :=
  ending.perform_world layer _ _

theorem connection?_rollback (layer : DataLayer σ) {s : Session} (settled : s.Settled) (w : World σ) :
    (s.rollback layer w).1.2.connection? = none := by
  cases kept : s.connection? with
  | none => rw [rollback_of_idle kept]; rfl
  | some handle =>
    obtain ⟨answer, events, state, _, run⟩ := rollback_of_active kept (settled.active_of_some kept) layer w
    rw [run]
    rfl

theorem lifetime_lives (layer : DataLayer σ) (target : String) (uses : List (Use α)) (ending : Ending)
    (w : World σ) :
    ∃ events, (lifetime layer target uses ending w).2.trace = w.trace ++ events ∧
      Lives layer target w.handles (lifetime layer target uses ending w).2.handles events := by
  obtain ⟨used, trace, account, settled, same⟩ := Use.performAll_new layer target uses w
  obtain ⟨own, moved⟩ := rollback_moved settled layer (Use.performAll layer (.new target) uses w).2
  rw [lifetime_world]
  refine ⟨used ++ own, ?_, ?_⟩
  · rw [moved.trace_eq, trace, List.append_assoc]
  · have step := moved.step
    rw [connection?_rollback layer settled, same] at step
    cases account.step step with
    | idle before => exact before

end Session

theorem Account.Step.count_closes {handle : Handle} {own : List Event} {held' : Option Handle} {last' : Nat}
    (step : Account.Step layer target held last own held' last') (mem : handle ∈ connections own) :
    (closes own).count handle = 1 ∨
      held = none ∧ held' = some handle ∧ Underway layer target handle own := by
  cases step with
  | quiet => simp [connections] at mem
  | life whole =>
    rcases whole.orderly.count_closes mem with once | live
    · exact Or.inl once
    · simp at live
  | begun underway =>
    rcases underway.orderly.count_closes mem with once | live
    · exact Or.inl once
    · rw [← Option.some.inj live]
      exact Or.inr ⟨rfl, rfl, underway⟩
  | command ok kind => simp [connections, kind] at mem
  | concluded conclusion => cases conclusion <;> simp [connections, Call.kind] at mem

theorem Underway.mem_begin {handle : Handle} (h : Underway layer target handle events) :
    ⟨handle, .begin, true⟩ ∈ events := by
  induction h with
  | begun attempt => cases attempt <;> simp [Except.isOk, Except.toBool]
  | command ok before kind ih => exact List.mem_append_left _ ih

/-- Every connection that a session makes is closed exactly once, nothing happens on it after that, and
no two are live at a time; the operation that makes a connection closes it, unless it starts a
transaction on it. Letting go of the session sends what disposing of it sends. -/
theorem Session.lifetime_releases (layer : DataLayer σ) (target : String) (uses : List (Use α))
    (ending : Ending) (w : World σ) :
    ∃ events, (lifetime layer target uses ending w).2.trace = w.trace ++ events ∧
      (∀ handle ∈ connections events, (closes events).count handle = 1) ∧
      (∀ before handle closed after, events = before ++ ⟨handle, .close, closed⟩ :: after →
        ∀ e ∈ after, e.handle ≠ handle) ∧
      (∀ before after, events = before ++ after → (live before).length ≤ 1) ∧
      (∀ before use after, uses = before ++ use :: after →
        let (s, w₁) := Use.performAll layer (.new target) before w
        let ((_, s'), w₂) := use.perform layer s w₁
        ∃ own, w₂.trace = w₁.trace ++ own ∧
          ∀ handle ∈ connections own, (closes own).count handle = 1 ∨
            use = .begin ∧ ⟨handle, .begin, true⟩ ∈ own ∧ s'.connection? = some handle) ∧
      (lifetime layer target uses .drop w).2 = (lifetime layer target uses .dispose w).2 := by
  obtain ⟨events, trace, lives⟩ := lifetime_lives layer target uses ending w
  have orderly := lives.orderly
  refine ⟨events, trace, ?_, ?_, ?_, ?_, ?_⟩
  · intro handle mem
    rcases orderly.count_closes mem with once | live
    · exact once
    · simp at live
  · intro before handle closed after split
    rw [split] at orderly
    exact orderly.ne_of_closed
  · intro before after split
    rw [split] at orderly
    obtain ⟨_, between, first, _⟩ := orderly.split
    rw [first.live_eq]
    cases between <;> simp
  · intro before use after _
    obtain ⟨_, _, _, settled, _⟩ := Use.performAll_new layer target before w
    obtain ⟨own, moved⟩ := Use.perform_moved settled layer use (Use.performAll layer (.new target) before w).2
    refine ⟨own, moved.trace_eq, ?_⟩
    intro handle mem
    rcases moved.step.count_closes mem with once | ⟨idle, kept, underway⟩
    · exact Or.inl once
    · exact Or.inr ⟨Use.eq_begin_of_kept idle layer use _ kept, underway.mem_begin, kept⟩
  · rw [lifetime_world, lifetime_world]

end TypedSql
