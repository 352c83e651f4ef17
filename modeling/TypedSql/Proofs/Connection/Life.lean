import TypedSql.DataLayer

namespace TypedSql

inductive CallKind where
  | connect
  | openUp
  | close
  | begin
  | commit
  | rollback
  | command
  deriving DecidableEq

def Call.kind : Call → CallKind
  | .connect _ => .connect
  | .openUp => .openUp
  | .close => .close
  | .begin => .begin
  | .commit => .commit
  | .rollback => .rollback
  | .execute _ => .command
  | .query _ => .command

/-- A call that asks something of a server, not only for a connection to it. -/
def CallKind.asks : CallKind → Bool
  | .begin => true
  | .commit => true
  | .rollback => true
  | .command => true
  | _ => false

def onHandle (handle : Handle) (events : List Event) : List Event := events.filter (·.handle = handle)

theorem onHandle_append (handle : Handle) (xs ys : List Event) :
    onHandle handle (xs ++ ys) = onHandle handle xs ++ onHandle handle ys := List.filter_append xs ys

theorem onHandle_of_all {handle : Handle} {events : List Event} (h : ∀ e ∈ events, e.handle = handle) :
    onHandle handle events = events := by
  apply List.filter_eq_self.mpr
  intro e he
  exact decide_eq_true (h e he)

theorem onHandle_of_none {handle : Handle} {events : List Event} (h : ∀ e ∈ events, e.handle ≠ handle) :
    onHandle handle events = [] := by
  apply List.filter_eq_nil_iff.mpr
  intro e he
  simpa only [decide_eq_true_eq] using h e he

variable {σ : Type}

/-- A call on a connection at hand, which is opened first if it is found closed, and then only: the
events, what comes of the call, and the state of the layer afterwards. -/
inductive Attempt (layer : DataLayer σ) (handle : Handle) (call : Call) (state : σ) :
    List Event → Except Failure call.Answer → σ → Prop where
  | unopened {failure : Failure} {state' : σ} (found : layer.isOpen handle state = false)
      (refused : layer.answer handle .openUp state = (.error failure, state')) :
      Attempt layer handle call state [⟨handle, .openUp, false⟩] (.error failure) state'
  | opened {state' state'' : σ} {answer : Except Failure call.Answer}
      (found : layer.isOpen handle state = false)
      (granted : layer.answer handle .openUp state = (.ok (), state'))
      (made : layer.answer handle call state' = (answer, state'')) :
      Attempt layer handle call state [⟨handle, .openUp, true⟩, ⟨handle, call, answer.isOk⟩] answer state''
  | found {state' : σ} {answer : Except Failure call.Answer} (found : layer.isOpen handle state = true)
      (made : layer.answer handle call state = (answer, state')) :
      Attempt layer handle call state [⟨handle, call, answer.isOk⟩] answer state'

/-- The events so far of a connection whose transaction is still open. -/
inductive Underway (layer : DataLayer σ) (target : String) (handle : Handle) : List Event → Prop where
  | begun {state state' : σ} {events : List Event}
      (attempt : Attempt layer handle .begin state events (.ok ()) state') :
      Underway layer target handle (⟨handle, .connect target, true⟩ :: events)
  | command {events : List Event} {call : Call} (ok : Bool) (before : Underway layer target handle events)
      (kind : call.kind = .command) : Underway layer target handle (events ++ [⟨handle, call, ok⟩])

inductive Conclusion (handle : Handle) : List Event → Prop where
  | committed (closed : Bool) : Conclusion handle [⟨handle, .commit, true⟩, ⟨handle, .close, closed⟩]
  | commitFailed (undone closed : Bool) :
      Conclusion handle [⟨handle, .commit, false⟩, ⟨handle, .rollback, undone⟩, ⟨handle, .close, closed⟩]
  | rolledBack (undone closed : Bool) :
      Conclusion handle [⟨handle, .rollback, undone⟩, ⟨handle, .close, closed⟩]

/-- All events of a connection, from the request for it to its close. -/
inductive Life (layer : DataLayer σ) (target : String) (handle : Handle) : List Event → Prop where
  | refused : Life layer target handle [⟨handle, .connect target, false⟩]
  | alone {state state' : σ} {call : Call} {answer : Except Failure call.Answer} {events : List Event}
      (closed : Bool) (kind : call.kind = .command)
      (attempt : Attempt layer handle call state events answer state') :
      Life layer target handle
        (⟨handle, .connect target, true⟩ :: events ++ [⟨handle, .close, closed⟩])
  | unbegun {state state' : σ} {failure : Failure} {events : List Event} (closed : Bool)
      (attempt : Attempt layer handle .begin state events (.error failure) state') :
      Life layer target handle
        (⟨handle, .connect target, true⟩ :: events ++ [⟨handle, .close, closed⟩])
  | concluded {events conclusion : List Event} (before : Underway layer target handle events)
      (after : Conclusion handle conclusion) : Life layer target handle (events ++ conclusion)

/-- Lives of the connections from one handle up to another, one after the other. -/
inductive Lives (layer : DataLayer σ) (target : String) (first : Nat) : Nat → List Event → Prop where
  | start : Lives layer target first first []
  | next {last : Nat} {events life : List Event} (before : Lives layer target first last events)
      (own : Life layer target (last + 1) life) : Lives layer target first (last + 1) (events ++ life)

variable {layer : DataLayer σ} {target : String} {handle : Handle} {events : List Event}

theorem Attempt.handle_eq {call : Call} {state state' : σ} {answer : Except Failure call.Answer}
    (h : Attempt layer handle call state events answer state') : ∀ e ∈ events, e.handle = handle := by
  cases h <;> simp

theorem Attempt.kind {call : Call} {state state' : σ} {answer : Except Failure call.Answer}
    (h : Attempt layer handle call state events answer state') :
    ∀ e ∈ events, e.call.kind = .openUp ∨ e.call = call ∧ e.succeeded = answer.isOk := by
  cases h <;> simp [Call.kind]

theorem Underway.handle_eq (h : Underway layer target handle events) : ∀ e ∈ events, e.handle = handle := by
  induction h with
  | begun attempt => simpa using attempt.handle_eq
  | command ok before kind ih => simpa [List.mem_append, or_imp, forall_and] using ih

theorem Conclusion.handle_eq (h : Conclusion handle events) : ∀ e ∈ events, e.handle = handle := by
  cases h <;> simp

theorem Life.handle_eq (h : Life layer target handle events) : ∀ e ∈ events, e.handle = handle := by
  cases h with
  | refused => simp
  | alone closed kind attempt => simpa [or_imp, forall_and] using attempt.handle_eq
  | unbegun closed attempt => simpa [or_imp, forall_and] using attempt.handle_eq
  | concluded before after =>
    intro e he
    rcases List.mem_append.mp he with he | he
    · exact before.handle_eq e he
    · exact after.handle_eq e he

theorem Lives.first_le {first last : Nat} (h : Lives layer target first last events) : first ≤ last := by
  induction h with
  | start => exact Nat.le_refl _
  | next before own ih => omega

theorem Lives.handle_bounds {first last : Nat} (h : Lives layer target first last events) :
    ∀ e ∈ events, first < e.handle ∧ e.handle ≤ last := by
  induction h with
  | start => simp
  | next before own ih =>
    intro e he
    rcases List.mem_append.mp he with he | he
    · obtain ⟨above, below⟩ := ih e he
      exact ⟨above, Nat.le_succ_of_le below⟩
    · rw [own.handle_eq e he]
      exact ⟨Nat.lt_succ_of_le before.first_le, Nat.le_refl _⟩

theorem Lives.onHandle {first last : Nat} (h : Lives layer target first last events) {handle : Handle}
    (above : first < handle) (below : handle ≤ last) :
    Life layer target handle (onHandle handle events) := by
  induction h with
  | start => exact absurd above (Nat.not_lt_of_le below)
  | @next last events life before own ih =>
    rw [onHandle_append]
    by_cases here : handle = last + 1
    · subst here
      have earlier : TypedSql.onHandle (last + 1) events = [] := by
        apply onHandle_of_none
        intro e he same
        have := (before.handle_bounds e he).2
        rw [same] at this
        exact Nat.not_succ_le_self last this
      rw [earlier, onHandle_of_all own.handle_eq]
      exact own
    · have later : TypedSql.onHandle handle life = [] := by
        apply onHandle_of_none
        intro e he same
        exact here (same.symm.trans (own.handle_eq e he))
      rw [later, List.append_nil]
      exact ih (Nat.le_of_lt_succ (Nat.lt_of_le_of_ne below here))

end TypedSql
