import TypedSql.Proofs.Connection.InTurn
import TypedSql.Proofs.Session.Asked

namespace TypedSql

variable {σ α : Type} {layer layer' : DataLayer σ} {s : Session} {w : World σ} {target : String} {handle : Handle}
  {call : Call} {events : List Event} {state state' : σ}

theorem Alone.outcome_eq {answer : Except Failure call.Answer}
    (h : Alone layer target call handle state events answer state') :
    layer.outcome handle call (layer.leadUp target handle state) state = answer ∧
      ∃ cleanup, events = layer.inTurn handle (layer.leadUp target handle state ++ [call]) state ++ cleanup ∧
        (∀ e ∈ cleanup, e.call = .close) ∧ (answer.isOk = true → cleanup.map (·.call) = [.close]) := by
  cases h with
  | refused asked =>
    obtain ⟨answered, recorded⟩ := DataLayer.outcome_leadUp_of_error call asked
    exact ⟨answered, [], by rw [recorded, List.append_nil], by simp, by simp [Except.isOk, Except.toBool]⟩
  | connected asked attempt released =>
    obtain ⟨answered, recorded⟩ := attempt.outcome_leadUp asked
    exact ⟨answered, _, by rw [recorded], by simp, fun _ => rfl⟩

theorem Beginning.outcome_eq {answer : Except Failure Unit}
    (h : Beginning layer target handle state events answer state') :
    layer.outcome handle .begin (layer.leadUp target handle state) state = answer ∧
      ∃ cleanup, events = layer.inTurn handle (layer.leadUp target handle state ++ [.begin]) state ++ cleanup ∧
        ∀ e ∈ cleanup, e.call = .close := by
  cases h with
  | refused asked =>
    obtain ⟨answered, recorded⟩ := DataLayer.outcome_leadUp_of_error .begin asked
    exact ⟨answered, [], by rw [recorded, List.append_nil], by simp⟩
  | unbegun asked attempt released =>
    obtain ⟨answered, recorded⟩ := attempt.outcome_leadUp asked
    exact ⟨answered, _, by rw [recorded], by simp⟩
  | begun asked attempt =>
    obtain ⟨answered, recorded⟩ := attempt.outcome_leadUp asked
    exact ⟨answered, [], by rw [recorded, List.append_nil], by simp⟩

theorem Concluding.recorded {answer : Except Failure Unit} (h : Concluding handle call events answer) :
    ∃ cleanup, events = ⟨handle, call, answer.isOk⟩ :: cleanup ∧
      ∀ e ∈ cleanup, e.call = .close ∨ call = .commit ∧ e.call = .rollback := by
  cases h with
  | committed closed => exact ⟨_, rfl, by simp⟩
  | commitFailed failure undone closed => exact ⟨_, rfl, by simp⟩
  | rolledBack answer closed => exact ⟨_, rfl, by simp⟩

namespace Session

/-- The connection that a session makes its calls on: its own, else a new one. -/
def line (s : Session) (w : World σ) : Handle := s.connection?.getD (w.handles + 1)

/-- The steps to a call: none inside a transaction. -/
def leadUp (layer : DataLayer σ) (s : Session) (w : World σ) : List Call :=
  if s.inTransaction then [] else layer.leadUp s.target (s.line w) w.layer

/-- A session makes a call: it gets the first failure of the steps to the call, else what the call itself
answers, and what is recorded are these steps and the cleaning up behind them. -/
structure Made (layer : DataLayer σ) (s : Session) (call : Call) (w : World σ)
    (answer : Except Failure call.Answer) (w' : World σ) (cleanup : List Event) : Prop where
  answer_eq : answer = layer.outcome (s.line w) call (s.leadUp layer w) w.layer
  trace_eq : w'.trace = w.trace ++ (layer.inTurn (s.line w) (s.leadUp layer w ++ [call]) w.layer ++ cleanup)

namespace Settled

theorem leadUp_inside (active : s.inTransaction = true) (layer : DataLayer σ) (w : World σ) :
    s.leadUp layer w = [] := if_pos active

theorem leadUp_alone (settled : s.Settled) (idle : s.connection? = none) (layer : DataLayer σ) (w : World σ) :
    s.leadUp layer w = layer.leadUp s.target (w.handles + 1) w.layer ∧ s.line w = w.handles + 1 := by
  have own : s.line w = w.handles + 1 := by rw [line, idle, Option.getD_none]
  rw [leadUp, if_neg (by simp [settled.inactive_of_none idle]), own]
  exact ⟨rfl, rfl⟩

/-- Inside a transaction a call is made at once. -/
theorem made_inside (held : s.connection? = some handle) (active : s.inTransaction = true) {w' : World σ}
    {cleanup : List Event}
    (trace : w'.trace = w.trace ++ ⟨handle, call, (layer.answer handle call w.layer).1.isOk⟩ :: cleanup) :
    s.Made layer call w (layer.answer handle call w.layer).1 w' cleanup := by
  have own : s.line w = handle := by rw [line, held, Option.getD_some]
  refine ⟨?_, ?_⟩
  · rw [leadUp_inside active, own, DataLayer.outcome]
  · rw [leadUp_inside active, own, List.nil_append, layer.inTurn_singleton]
    exact trace

theorem made_dispatch (settled : s.Settled) (layer : DataLayer σ) (call : Call) (w : World σ) :
    ∃ cleanup, s.Made layer call w (s.dispatch layer call w).1 (s.dispatch layer call w).2 cleanup ∧
      (∀ e ∈ cleanup, e.call = .close) ∧
      ((s.dispatch layer call w).1.isOk = true →
        cleanup.map (·.call) = if s.inTransaction then [] else [.close]) := by
  cases held : s.connection? with
  | some handle =>
    have active := settled.active_of_some held
    rw [dispatch_inside held active, layer.send_apply handle call w rfl, if_pos active]
    exact ⟨[], made_inside held active rfl, by simp, fun _ => rfl⟩
  | none =>
    obtain ⟨steps, own⟩ := settled.leadUp_alone held layer w
    obtain ⟨events, answer, state, alone, run⟩ := layer.sendAlone_spec s.target call w
    obtain ⟨answered, cleanup, recorded, closes, closed⟩ := alone.outcome_eq
    rw [dispatch_idle held, run, if_neg (by simp [settled.inactive_of_none held])]
    refine ⟨cleanup, ⟨?_, ?_⟩, closes, closed⟩
    · rw [own, steps, answered]
    · rw [own, steps, ← recorded, World.after_trace]

theorem made_beginning (settled : s.Settled) (unheld : s.connection? = none) {answer : Except Failure Unit}
    (beginning : Beginning layer s.target (w.handles + 1) w.layer events answer state) :
    ∃ cleanup, s.Made layer .begin w answer (w.after state (w.handles + 1) events) cleanup ∧
      ∀ e ∈ cleanup, e.call = .close := by
  obtain ⟨steps, own⟩ := settled.leadUp_alone unheld layer w
  obtain ⟨answered, cleanup, recorded, closes⟩ := beginning.outcome_eq
  refine ⟨cleanup, ⟨?_, ?_⟩, closes⟩
  · rw [own, steps, answered]
  · rw [own, steps, ← recorded, World.after_trace]

theorem made_begin (settled : s.Settled) (inactive : s.inTransaction = false) (layer : DataLayer σ) (w : World σ) :
    ∃ cleanup, s.Made layer .begin w (s.begin layer w).1.1 (s.begin layer w).2 cleanup ∧
      ∀ e ∈ cleanup, e.call = .close := by
  have unheld := settled.idle_of_inactive inactive
  rcases begin_of_idle unheld inactive layer w with ⟨_, _, _, beginning, run⟩ | ⟨_, _, beginning, run⟩
  · rw [run]
    exact settled.made_beginning unheld beginning
  · rw [run]
    exact settled.made_beginning unheld beginning

theorem commit_answer (held : s.connection? = some handle) (active : s.inTransaction = true) (layer : DataLayer σ)
    (w : World σ) : (s.commit layer w).1.1 = (layer.answer handle .commit w.layer).1 := by
  cases committing : layer.answer handle .commit w.layer with
  | mk answer state =>
    simp only [commit, held, active, if_true, Action.bind_apply, layer.send_apply handle .commit w committing]
    cases answer <;> rfl

theorem rollback_answer (held : s.connection? = some handle) (active : s.inTransaction = true) (layer : DataLayer σ)
    (w : World σ) : (s.rollback layer w).1.1 = (layer.answer handle .rollback w.layer).1 := by
  simp only [rollback, held, active, if_true, Action.bind_apply, layer.send_apply handle .rollback w rfl]
  rfl

theorem made_commit (settled : s.Settled) (active : s.inTransaction = true) (layer : DataLayer σ) (w : World σ) :
    ∃ cleanup, s.Made layer .commit w (s.commit layer w).1.1 (s.commit layer w).2 cleanup ∧
      ∀ e ∈ cleanup, e.call = .close ∨ e.call = .rollback := by
  obtain ⟨handle, held⟩ := settled.active_iff.mp active
  obtain ⟨answer, events, state, concluding, run⟩ := commit_of_active held active layer w
  have answered := commit_answer held active layer w
  rw [run] at answered ⊢
  subst answered
  obtain ⟨cleanup, rfl, cleans⟩ := concluding.recorded
  exact ⟨cleanup, made_inside held active rfl, fun e mem => (cleans e mem).imp_right And.right⟩

theorem made_rollback (settled : s.Settled) (active : s.inTransaction = true) (layer : DataLayer σ) (w : World σ) :
    ∃ cleanup, s.Made layer .rollback w (s.rollback layer w).1.1 (s.rollback layer w).2 cleanup ∧
      ∀ e ∈ cleanup, e.call = .close := by
  obtain ⟨handle, held⟩ := settled.active_iff.mp active
  obtain ⟨answer, events, state, concluding, run⟩ := rollback_of_active held active layer w
  have answered := rollback_answer held active layer w
  rw [run] at answered ⊢
  subst answered
  obtain ⟨cleanup, rfl, cleans⟩ := concluding.recorded
  exact ⟨cleanup, made_inside held active rfl, fun e mem => (cleans e mem).resolve_right fun h => nomatch h.1⟩

end Settled

theorem kind_of_mem_leadUp {step : Call} (mem : step ∈ s.leadUp layer w) :
    step.kind = .connect ∨ step.kind = .openUp := by
  unfold leadUp DataLayer.leadUp DataLayer.opening at mem
  repeat' split at mem
  all_goals simp only [List.mem_cons, List.not_mem_nil, or_false] at mem
  · rw [mem]
    exact Or.inl rfl
  · rcases mem with rfl | rfl
    · exact Or.inl rfl
    · exact Or.inr rfl

/-- Data layers that differ only in how they clean up give the same answer to a call that does not. -/
theorem Made.answer_congr {answer answer' : Except Failure call.Answer} {w₁ w₂ : World σ}
    {cleanup cleanup' : List Event} {cleans : Call → Bool} (h : s.Made layer call w answer w₁ cleanup)
    (h' : s.Made layer' call w answer' w₂ cleanup') (same : layer.SameBut cleans layer') (asks : cleans call = false)
    (apart : ∀ step : Call, step.kind = .connect ∨ step.kind = .openUp → cleans step = false) : answer' = answer := by
  have steps : s.leadUp layer' w = s.leadUp layer w := by
    unfold leadUp
    rw [same.leadUp_eq (apart _ (Or.inl rfl))]
  rw [h'.answer_eq, h.answer_eq, steps]
  exact same.outcome_eq (fun step mem => apart step (kind_of_mem_leadUp mem)) asks _ _

theorem Started.session_eq {r : (Except Failure Unit × Session) × World σ} (h : Started layer s w r)
    (inactive : s.inTransaction = false) :
    r.1.2 = if r.1.1.isOk then { s with connection? := some (w.handles + 1), inTransaction := true } else s := by
  cases h with
  | already active => rw [inactive] at active; cases active
  | failed unheld beginning => rfl
  | started unheld beginning => rfl

theorem Started.unbegun {r : (Except Failure Unit × Session) × World σ} (h : Started layer s w r)
    (failed : r.1.1.isOk = false) : r.1.2 = s ∧ s.connection? = none := by
  cases h with
  | already active => cases failed
  | failed unheld beginning => exact ⟨rfl, unheld⟩
  | started unheld beginning => cases failed

theorem Ended.session_eq {r : (Except Failure Unit × Session) × World σ} (h : s.Ended call w r) : r.1.2 = s.idle := by
  cases h <;> rfl

section Cleanup

variable {cleans : Call → Bool} (settled : s.Settled) (same : layer.SameBut cleans layer')

include settled same

theorem begin_congr (asks : cleans .begin = false)
    (apart : ∀ step : Call, step.kind = .connect ∨ step.kind = .openUp → cleans step = false) :
    (s.begin layer' w).1 = (s.begin layer w).1 := by
  cases active : s.inTransaction with
  | true => rw [begin_of_active active, begin_of_active active]
  | false =>
    obtain ⟨_, made, _⟩ := settled.made_begin active layer w
    obtain ⟨_, made', _⟩ := settled.made_begin active layer' w
    have answer := made.answer_congr made' same asks apart
    have session := (settled.started_begin layer' w).session_eq active
    rw [answer, ← (settled.started_begin layer w).session_eq active] at session
    exact Prod.ext answer session

theorem commit_congr (asks : cleans .commit = false) : (s.commit layer' w).1 = (s.commit layer w).1 := by
  cases held : s.connection? with
  | none => rw [commit_of_idle held, commit_of_idle held]
  | some handle =>
    have active := settled.active_of_some held
    refine Prod.ext ?_
      ((settled.ended_commit layer' w).session_eq.trans (settled.ended_commit layer w).session_eq.symm)
    rw [Settled.commit_answer held active, Settled.commit_answer held active, same.answer_eq handle .commit _ asks]

theorem rollback_congr (asks : cleans .rollback = false) : (s.rollback layer' w).1 = (s.rollback layer w).1 := by
  cases held : s.connection? with
  | none => rw [rollback_of_idle held, rollback_of_idle held]
  | some handle =>
    have active := settled.active_of_some held
    refine Prod.ext ?_
      ((settled.ended_rollback layer' w).session_eq.trans (settled.ended_rollback layer w).session_eq.symm)
    rw [Settled.rollback_answer held active, Settled.rollback_answer held active,
      same.answer_eq handle .rollback _ asks]

end Cleanup

theorem execute_congr {subject : Subject} {command : Command}
    (comes : s.command (s.timeout? <|> w.timeout?) subject = .ok command)
    (same : (s.dispatch layer' (.execute command) w).1 = (s.dispatch layer (.execute command) w).1) :
    (s.execute layer' subject w).1 = (s.execute layer subject w).1 := by
  rw [s.execute_answer comes layer, s.execute_answer comes layer', same]

theorem fetch_congr {subject : Subject} {command : Command}
    (comes : s.command (s.timeout? <|> w.timeout?) subject = .ok command) (take : Take α)
    (same : (s.dispatch layer' (.query command) w).1 = (s.dispatch layer (.query command) w).1) :
    (s.fetch layer' subject take w).1 = (s.fetch layer subject take w).1 := by
  have rows : (s.queryRows layer' subject w).1 = (s.queryRows layer subject w).1 := by
    rw [s.queryRows_answer comes layer, s.queryRows_answer comes layer', same]
  rw [fetch, fetch, Action.bind_apply, Action.bind_apply, rows]
  cases (s.queryRows layer subject w).1 <;> rfl

end Session

theorem Statement.finish_congr {t : Statement} {terminal : Terminal α} {command : Command}
    (comes : t.session.command (t.session.timeout? <|> w.timeout?) terminal.subject = .ok command)
    (same : (t.session.dispatch layer' (terminal.call command) w).1 =
      (t.session.dispatch layer (terminal.call command) w).1) :
    (t.finish layer' terminal w).1 = (t.finish layer terminal w).1 := by
  cases terminal with
  | query take => exact congrArg (Except.map _) (t.session.fetch_congr comes take same)
  | execute => exact congrArg (Except.map _) (t.session.execute_congr comes same)
  | callQuery take => exact congrArg (Except.map _) (t.session.fetch_congr comes take same)
  | callExecute => exact congrArg (Except.map _) (t.session.execute_congr comes same)

end TypedSql
