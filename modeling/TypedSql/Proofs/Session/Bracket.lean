import TypedSql.Proofs.Connection.Calls
import TypedSql.Session.Transaction

namespace TypedSql

variable {σ : Type} {layer : DataLayer σ} {target : String} {handle : Handle}

/-- The start of a transaction on a connection of its own, which is closed unless the start succeeds. -/
inductive Beginning (layer : DataLayer σ) (target : String) (handle : Handle) (state : σ) :
    List Event → Except Failure Unit → σ → Prop where
  | refused {failure : Failure} {state' : σ}
      (asked : layer.answer handle (.connect target) state = (.error failure, state')) :
      Beginning layer target handle state [⟨handle, .connect target, false⟩] (.error failure) state'
  | unbegun {state' state'' state''' : σ} {events : List Event} {failure : Failure}
      {closed : Except Failure Unit}
      (asked : layer.answer handle (.connect target) state = (.ok (), state'))
      (attempt : Attempt layer handle .begin state' events (.error failure) state'')
      (released : layer.answer handle .close state'' = (closed, state''')) :
      Beginning layer target handle state
        (⟨handle, .connect target, true⟩ :: events ++ [⟨handle, .close, closed.isOk⟩])
        (.error failure) state'''
  | begun {state' state'' : σ} {events : List Event}
      (asked : layer.answer handle (.connect target) state = (.ok (), state'))
      (attempt : Attempt layer handle .begin state' events (.ok ()) state'') :
      Beginning layer target handle state (⟨handle, .connect target, true⟩ :: events) (.ok ()) state''

theorem Beginning.life {state state' : σ} {events : List Event} {failure : Failure}
    (h : Beginning layer target handle state events (.error failure) state') :
    Life layer target handle events := by
  cases h with
  | refused asked => exact .refused
  | unbegun asked attempt released => exact .unbegun _ attempt

theorem Beginning.underway {state state' : σ} {events : List Event}
    (h : Beginning layer target handle state events (.ok ()) state') :
    Underway layer target handle events := by
  cases h with
  | begun asked attempt => exact .begun attempt

/-- The end of a transaction by a commit or a rollback: what is recorded, and what comes of it. -/
inductive Concluding (handle : Handle) : Call → List Event → Except Failure Unit → Prop where
  | committed (closed : Bool) :
      Concluding handle .commit [⟨handle, .commit, true⟩, ⟨handle, .close, closed⟩] (.ok ())
  | commitFailed (failure : Failure) (undone closed : Bool) :
      Concluding handle .commit
        [⟨handle, .commit, false⟩, ⟨handle, .rollback, undone⟩, ⟨handle, .close, closed⟩] (.error failure)
  | rolledBack (answer : Except Failure Unit) (closed : Bool) :
      Concluding handle .rollback [⟨handle, .rollback, answer.isOk⟩, ⟨handle, .close, closed⟩] answer

theorem Concluding.conclusion {call : Call} {events : List Event} {answer : Except Failure Unit}
    (h : Concluding handle call events answer) : Conclusion handle events := by
  cases h with
  | committed closed => exact .committed closed
  | commitFailed failure undone closed => exact .commitFailed undone closed
  | rolledBack answer closed => exact .rolledBack answer.isOk closed

namespace Session

variable {s : Session}

theorem begin_of_active (active : s.inTransaction = true) (layer : DataLayer σ) (w : World σ) :
    s.begin layer w = ((.ok (), s), w) := by
  unfold begin
  rw [if_pos active]
  rfl

theorem begin_of_idle (idle : s.connection? = none) (inactive : s.inTransaction = false)
    (layer : DataLayer σ) (w : World σ) :
    (∃ events failure state,
      Beginning layer s.target (w.handles + 1) w.layer events (.error failure) state ∧
        s.begin layer w = ((.error failure, s), w.after state (w.handles + 1) events)) ∨
    ∃ events state, Beginning layer s.target (w.handles + 1) w.layer events (.ok ()) state ∧
      s.begin layer w =
        ((.ok (), { s with connection? := some (w.handles + 1), inTransaction := true }),
          w.after state (w.handles + 1) events) := by
  have unheld : { s with connection? := none, inTransaction := false } = s := by
    cases s
    subst idle inactive
    rfl
  have acquired : s.acquire layer = layer.connect s.target := by simp only [acquire, idle]
  simp only [begin, inactive, Bool.false_eq_true, if_false, acquired, Action.bind_apply]
  cases asking : layer.answer (w.handles + 1) (.connect s.target) w.layer with
  | mk answer state =>
    have asked := layer.connect_apply s.target w asking
    cases answer with
    | error failure =>
      refine Or.inl ⟨_, _, _, .refused asking, ?_⟩
      rw [asked]
      rfl
    | ok _ =>
      obtain ⟨events, answer, state', attempt, run⟩ := layer.whenOpen_send (w.handles + 1) .begin
        (w.after state (w.handles + 1) [⟨w.handles + 1, .connect s.target, true⟩])
      have connected : layer.connect s.target w = (.ok (w.handles + 1),
          w.after state (w.handles + 1) [⟨w.handles + 1, .connect s.target, true⟩]) := asked
      rw [connected]
      simp only [Action.bind_apply, run]
      cases answer with
      | error failure =>
        refine Or.inl ⟨_, _, _, .unbegun asking attempt rfl, ?_⟩
        simp only [Action.bind_apply, World.after_after, World.after_handles, List.singleton_append]
        rw [layer.release_after (w.handles + 1) w rfl, Action.pure_apply, unheld]
      | ok _ =>
        refine Or.inr ⟨_, _, .begun asking attempt, ?_⟩
        simp only [World.after_after, World.after_handles, List.singleton_append]
        rfl

theorem commit_of_idle (idle : s.connection? = none) (layer : DataLayer σ) (w : World σ) :
    s.commit layer w = ((.ok (), s.idle), w) := by
  simp only [commit, idle]
  rfl

theorem rollback_of_idle (idle : s.connection? = none) (layer : DataLayer σ) (w : World σ) :
    s.rollback layer w = ((.ok (), s.idle), w) := by
  simp only [rollback, idle]
  rfl

theorem rollback_of_active (held : s.connection? = some handle) (active : s.inTransaction = true)
    (layer : DataLayer σ) (w : World σ) : ∃ answer events state,
    Concluding handle .rollback events answer ∧
      s.rollback layer w = ((answer, s.idle), w.after state w.handles events) := by
  cases undoing : layer.answer handle .rollback w.layer with
  | mk answer state =>
    cases closing : layer.answer handle .close state with
    | mk closed last =>
      refine ⟨answer, _, last, .rolledBack answer closed.isOk, ?_⟩
      simp only [rollback, held, active, if_true, Action.bind_apply,
        layer.send_apply handle .rollback w undoing, layer.release_after handle w closing]
      rfl

theorem commit_of_active (held : s.connection? = some handle) (active : s.inTransaction = true)
    (layer : DataLayer σ) (w : World σ) : ∃ answer events state,
    Concluding handle .commit events answer ∧
      s.commit layer w = ((answer, s.idle), w.after state w.handles events) := by
  cases committing : layer.answer handle .commit w.layer with
  | mk answer state =>
    have sent := layer.send_apply handle .commit w committing
    cases answer with
    | ok _ =>
      cases closing : layer.answer handle .close state with
      | mk closed last =>
        refine ⟨.ok (), _, last, .committed closed.isOk, ?_⟩
        simp only [commit, held, active, if_true, Action.bind_apply, sent, Action.pure_apply,
          layer.release_after handle w closing]
        rfl
    | error failure =>
      cases undoing : layer.answer handle .rollback state with
      | mk undone state' =>
        cases closing : layer.answer handle .close state' with
        | mk closed last =>
          refine ⟨.error failure, _, last, .commitFailed failure undone.isOk closed.isOk, ?_⟩
          simp only [commit, held, active, if_true, Action.bind_apply, sent,
            layer.send_after handle .rollback w undoing, layer.release_after handle w closing]
          rfl

theorem drop_world (layer : DataLayer σ) (s : Session) (w : World σ) :
    (s.drop layer w).2 = (s.rollback layer w).2 := by
  unfold drop rollback
  cases s.connection? with
  | none => rfl
  | some handle =>
    cases s.inTransaction with
    | false => rfl
    | true => rfl

end Session

end TypedSql
