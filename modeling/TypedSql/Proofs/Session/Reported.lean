import TypedSql.Proofs.Session.Made
import TypedSql.Proofs.Statement.Mode
import TypedSql.Recorder

namespace TypedSql

variable {σ α : Type} {layer layer' : DataLayer σ} {s : Session} {w : World σ} {call : Call}

namespace Use

variable {use : Use α} {opening : Opening} {clauses : List Clause} {terminal : Statement.Terminal α} {t : Statement}
  {left : Session}

/-- A terminal that the chain admits always comes to a call. -/
theorem call?_of_admitted (added : (Statement.start s opening).addAll? clauses = some (.ok t, left))
    (admitted : terminal.admitted t.stage = true) (default? : Option Nat) :
    ∃ command, t.session.command (t.session.timeout? <|> default?) terminal.subject = .ok command ∧
      (write opening clauses (some terminal)).call? s default? = some (terminal.call command) := by
  obtain ⟨command, comes, _⟩ :=
    (Statement.stands_written added).subject admitted (t.session.timeout? <|> default?)
  refine ⟨command, comes, ?_⟩
  simp only [call?, added, if_pos admitted, Statement.call?_of_command comes]

/-- What a use that leaves the transaction alone answers depends on the data layer by its one call only. -/
theorem perform_congr (plain : use.isPlain = true)
    (same : ∀ call, use.call? s w.timeout? = some call → (s.dispatch layer' call w).1 = (s.dispatch layer call w).1) :
    (use.perform layer' s w).1 = (use.perform layer s w).1 := by
  cases use with
  | begin => cases plain
  | commit => cases plain
  | rollback => cases plain
  | setTimeout seconds => rfl
  | query text parameters take =>
    have given : s.command (s.timeout? <|> w.timeout?) (.given text parameters) =
        .ok (.statement text parameters (s.timeout? <|> w.timeout?)) := rfl
    have fetched := s.fetch_congr given take (same _ rfl)
    simp only [perform, Action.bind_apply, Action.pure_apply, fetched]
  | execute text parameters =>
    have given : s.command (s.timeout? <|> w.timeout?) (.given text parameters) =
        .ok (.statement text parameters (s.timeout? <|> w.timeout?)) := rfl
    have executed := s.execute_congr given (same _ rfl)
    simp only [perform, Action.bind_apply, Action.pure_apply, executed]
  | write opening clauses terminal? =>
    cases added : (Statement.start s opening).addAll? clauses with
    | none => simp only [perform, added, Action.pure_apply]
    | some written =>
      obtain ⟨answer, left⟩ := written
      cases answer with
      | error failure => simp only [perform, added, Action.pure_apply]
      | ok t =>
        cases terminal? with
        | none => simp only [perform, added, Option.bind_none, Action.pure_apply]
        | some terminal =>
          by_cases admitted : terminal.admitted t.stage = true
          · obtain ⟨command, comes, call⟩ := call?_of_admitted added admitted w.timeout?
            have connection := Statement.sameConnection_written added
            have asked := same _ call
            rw [← connection.dispatch_eq layer', ← connection.dispatch_eq layer] at asked
            have finished := Statement.finish_congr comes asked
            rw [perform_write added admitted, perform_write added admitted, finished]
          · simp only [perform, added, Option.bind_some, Statement.finish?, if_neg admitted, Action.pure_apply]

/-- The calls that a use makes only to clean up. -/
def cleansUp : Use α → Call → Bool
  | _, .close => true
  | .commit, .rollback => true
  | _, _ => false

/-- What a use answers in any state of its session and of the data layer. Where it comes to a call, its
answer is read off what comes of that call at the end of the steps to it. Only a row that does not fit is
reported in place of an answer, and then every step was made and the connection is closed again. Where it
comes to no call, nothing is done, and only a clause that fails makes it fail. How it leaves the session,
and what it answers, does not depend on what comes of cleaning up. -/
structure Reported (layer : DataLayer σ) (s : Session) (use : Use α) (w : World σ) : Prop where
  made : ∀ call, use.asks? s w.timeout? = some call →
    ∃ answer cleanup, s.Made layer call w answer (use.perform layer s w).2 cleanup ∧
      ReadOff answer (use.perform layer s w).1.1 ∧ ∀ e ∈ cleanup, use.cleansUp e.call = true
  unfit : ∀ call granted failure, use.asks? s w.timeout? = some call →
    layer.outcome (s.line w) call (s.leadUp layer w) w.layer = .ok granted →
    (use.perform layer s w).1.1 = .error failure →
    (∃ message, failure = .mapping message) ∧ ∃ cleanup,
      (use.perform layer s w).2.trace =
        w.trace ++ ((s.leadUp layer w ++ [call]).map (⟨s.line w, ·, true⟩) ++ cleanup) ∧
      cleanup.map (·.call) = if s.inTransaction then [] else [.close]
  unasked : use.asks? s w.timeout? = none → (use.perform layer s w).2 = w ∧
    ∀ failure, (use.perform layer s w).1.1 = .error failure →
      ∃ opening clauses terminal? left, use = .write opening clauses terminal? ∧
        (Statement.start s opening).addAll? clauses = some (.error failure, left)
  cleanup : ∀ layer', layer.SameBut use.cleansUp layer' → (use.perform layer' s w).1 = (use.perform layer s w).1
  unbegun : use = .begin → (use.perform layer s w).1.1.isOk = false →
    (use.perform layer s w).1.2 = s ∧ s.connection? = none ∧ s.inTransaction = false
  ended : use = .commit ∨ use = .rollback → (use.perform layer s w).1.2 = s.idle
  runs : ∀ opening clauses terminal t left, use = .write opening clauses (some terminal) →
    (Statement.start s opening).addAll? clauses = some (.ok t, left) → terminal.admitted t.stage = true →
    ∃ call, use.asks? s w.timeout? = some call ∧ call.kind = .command
  stays : use.isPlain = true → (use.perform layer s w).1.2.connection? = s.connection? ∧
    (use.perform layer s w).1.2.inTransaction = s.inTransaction

theorem cleansUp_close (use : Use α) {call : Call} (closes : call = .close) : use.cleansUp call = true := by
  rw [closes]
  cases use <;> rfl

theorem cleansUp_eq_false (use : Use α) (close : call.kind ≠ .close) (rollback : call.kind ≠ .rollback) :
    use.cleansUp call = false := by
  cases call with
  | close => exact absurd rfl close
  | rollback => exact absurd rfl rollback
  | _ => cases use <;> rfl

theorem asks?_cases (asks : use.asks? s w.timeout? = some call) :
    (use.isPlain = true ∧ use.call? s w.timeout? = some call) ∨
      (use = .begin ∧ s.inTransaction = false ∧ call = .begin) ∨
      (use = .commit ∧ s.inTransaction = true ∧ call = .commit) ∨
      use = .rollback ∧ s.inTransaction = true ∧ call = .rollback := by
  by_cases plain : use.isPlain = true
  · exact Or.inl ⟨plain, asks?_of_isPlain plain s w.timeout? ▸ asks⟩
  · cases use with
    | begin => cases active : s.inTransaction <;> simp_all [asks?]
    | commit => cases active : s.inTransaction <;> simp_all [asks?]
    | rollback => cases active : s.inTransaction <;> simp_all [asks?]
    | _ => exact absurd rfl plain

theorem cleansUp_of_asks? (asks : use.asks? s w.timeout? = some call) : use.cleansUp call = false := by
  rcases asks?_cases asks with ⟨_, comes⟩ | ⟨rfl, _, rfl⟩ | ⟨rfl, _, rfl⟩ | ⟨rfl, _, rfl⟩
  · have kind := kind_of_call? comes
    exact cleansUp_eq_false use (by rw [kind]; decide) (by rw [kind]; decide)
  all_goals rfl

theorem made_perform (settled : s.Settled) (layer : DataLayer σ) (asks : use.asks? s w.timeout? = some call) :
    ∃ answer cleanup, s.Made layer call w answer (use.perform layer s w).2 cleanup ∧
      ReadOff answer (use.perform layer s w).1.1 ∧ (∀ e ∈ cleanup, use.cleansUp e.call = true) ∧
      (answer.isOk = true → (use.perform layer s w).1.1.isOk = false →
        cleanup.map (·.call) = if s.inTransaction then [] else [.close]) := by
  have answered : ∀ {answer : Except Failure Unit},
      answer.isOk = true → (answer.map fun _ => (none : Option (Session.Returned (Statement.Result α)))).isOk = false →
        False := by
    intro answer ok failed
    rw [isOk_map, ok] at failed
    cases failed
  rcases asks?_cases asks with ⟨plain, comes⟩ | ⟨rfl, inactive, rfl⟩ | ⟨rfl, active, rfl⟩ | ⟨rfl, active, rfl⟩
  · have world := (perform_of_isPlain plain layer s w).2
    rw [comes] at world
    obtain ⟨cleanup, made, closes, closed⟩ := settled.made_dispatch layer call w
    exact ⟨_, cleanup, world ▸ made, readOff_perform comes layer, fun e mem => use.cleansUp_close (closes e mem),
      fun ok _ => closed ok⟩
  · obtain ⟨cleanup, made, closes⟩ := settled.made_begin inactive layer w
    exact ⟨_, cleanup, made, .of_map _ _, fun e mem => cleansUp_close _ (closes e mem),
      fun ok failed => (answered ok failed).elim⟩
  · obtain ⟨cleanup, made, cleans⟩ := settled.made_commit active layer w
    refine ⟨_, cleanup, made, .of_map _ _, fun e mem => ?_, fun ok failed => (answered ok failed).elim⟩
    rcases cleans e mem with closes | undoes
    · exact cleansUp_close _ closes
    · rw [undoes]
      rfl
  · obtain ⟨cleanup, made, closes⟩ := settled.made_rollback active layer w
    exact ⟨_, cleanup, made, .of_map _ _, fun e mem => cleansUp_close _ (closes e mem),
      fun ok failed => (answered ok failed).elim⟩

theorem unfit_perform (settled : s.Settled) (layer : DataLayer σ) (asks : use.asks? s w.timeout? = some call)
    {granted : call.Answer} {failure : Failure}
    (ok : layer.outcome (s.line w) call (s.leadUp layer w) w.layer = .ok granted)
    (failed : (use.perform layer s w).1.1 = .error failure) :
    (∃ message, failure = .mapping message) ∧ ∃ cleanup,
      (use.perform layer s w).2.trace =
        w.trace ++ ((s.leadUp layer w ++ [call]).map (⟨s.line w, ·, true⟩) ++ cleanup) ∧
      cleanup.map (·.call) = if s.inTransaction then [] else [.close] := by
  obtain ⟨answer, cleanup, made, read, _, closed⟩ := made_perform settled layer asks
  have succeeded : answer = .ok granted := made.answer_eq.trans ok
  refine ⟨?_, cleanup, ?_, ?_⟩
  · rcases read.of_eq_error failed with impossible | unfit
    · rw [succeeded] at impossible
      cases impossible
    · exact unfit
  · rw [made.trace_eq, DataLayer.inTurn_of_outcome_ok ok]
  · apply closed
    · rw [succeeded]
      rfl
    · rw [failed]
      rfl

theorem unasked_perform (settled : s.Settled) (layer : DataLayer σ) (nothing : use.asks? s w.timeout? = none) :
    (use.perform layer s w).2 = w ∧ ∀ failure, (use.perform layer s w).1.1 = .error failure →
      ∃ opening clauses terminal? left, use = .write opening clauses terminal? ∧
        (Statement.start s opening).addAll? clauses = some (.error failure, left) := by
  have refused : ∀ {p : Prop} {failure : Failure} {answer : Except Failure Unit}, answer = .ok () →
      (answer.map fun _ => (none : Option (Session.Returned (Statement.Result α)))) = .error failure → p := by
    intro p failure answer ok failed
    rw [ok] at failed
    cases failed
  by_cases plain : use.isPlain = true
  · rw [asks?_of_isPlain plain] at nothing
    have world := (perform_of_isPlain plain layer s w).2
    rw [nothing] at world
    refine ⟨world, fun failure failed => ?_⟩
    cases use with
    | write opening clauses terminal? =>
      have goes := written layer s opening clauses terminal? w
      rw [nothing] at goes
      generalize (write opening clauses terminal?).perform layer s w = r at goes failed
      generalize called : none = call? at goes
      cases goes with
      | unadmitted added => cases failed
      | failed added =>
        cases failed
        exact ⟨opening, clauses, terminal?, _, rfl, added⟩
      | unrun added unasked => cases failed
      | run added asked admitted =>
        obtain ⟨command, comes, _⟩ := call?_of_admitted added admitted w.timeout?
        rw [Statement.call?_of_command comes] at called
        cases called
    | setTimeout seconds => cases failed
    | query text parameters take => cases nothing
    | execute text parameters => cases nothing
    | _ => cases plain
  · cases use with
    | begin =>
      have active : s.inTransaction = true := by simpa [asks?] using nothing
      have run := Session.begin_of_active active layer w
      exact ⟨congrArg Prod.snd run, fun failure => refused (congrArg (·.1.1) run)⟩
    | commit =>
      have inactive : s.inTransaction = false := by simpa [asks?] using nothing
      have run := Session.commit_of_idle (settled.idle_of_inactive inactive) layer w
      exact ⟨congrArg Prod.snd run, fun failure => refused (congrArg (·.1.1) run)⟩
    | rollback =>
      have inactive : s.inTransaction = false := by simpa [asks?] using nothing
      have run := Session.rollback_of_idle (settled.idle_of_inactive inactive) layer w
      exact ⟨congrArg Prod.snd run, fun failure => refused (congrArg (·.1.1) run)⟩
    | _ => exact absurd rfl plain

theorem cleanup_perform (settled : s.Settled) (same : layer.SameBut use.cleansUp layer') :
    (use.perform layer' s w).1 = (use.perform layer s w).1 := by
  have apart : ∀ step : Call, step.kind = .connect ∨ step.kind = .openUp → use.cleansUp step = false := by
    intro step kind
    apply cleansUp_eq_false <;> rcases kind with kind | kind <;> rw [kind] <;> decide
  by_cases plain : use.isPlain = true
  · refine perform_congr plain fun call comes => ?_
    have asks : use.asks? s w.timeout? = some call := (asks?_of_isPlain plain s w.timeout?).trans comes
    obtain ⟨_, made, _⟩ := settled.made_dispatch layer call w
    obtain ⟨_, made', _⟩ := settled.made_dispatch layer' call w
    exact made.answer_congr made' same (cleansUp_of_asks? asks) apart
  · cases use with
    | begin => simp only [perform, Action.bind_apply, Session.begin_congr settled same rfl apart, Action.pure_apply]
    | commit => simp only [perform, Action.bind_apply, Session.commit_congr settled same rfl, Action.pure_apply]
    | rollback => simp only [perform, Action.bind_apply, Session.rollback_congr settled same rfl, Action.pure_apply]
    | _ => exact absurd rfl plain

theorem reported (settled : s.Settled) (layer : DataLayer σ) (use : Use α) (w : World σ) :
    use.Reported layer s w where
  made call asks := by
    obtain ⟨answer, cleanup, made, read, cleans, _⟩ := made_perform settled layer asks
    exact ⟨answer, cleanup, made, read, cleans⟩
  unfit _ _ _ asks ok failed := unfit_perform settled layer asks ok failed
  unasked nothing := unasked_perform settled layer nothing
  cleanup _ same := cleanup_perform settled same
  unbegun := by
    rintro rfl failed
    have answered : (s.begin layer w).1.1.isOk = false := (isOk_map _ _).symm.trans failed
    obtain ⟨same, unheld⟩ := (settled.started_begin layer w).unbegun answered
    exact ⟨same, unheld, settled.inactive_of_none unheld⟩
  ended := by
    rintro (rfl | rfl)
    · exact (settled.ended_commit layer w).session_eq
    · exact (settled.ended_rollback layer w).session_eq
  runs := by
    rintro opening clauses terminal t left rfl added admitted
    obtain ⟨command, _, call⟩ := call?_of_admitted added admitted w.timeout?
    exact ⟨_, call, kind_of_call? call⟩
  stays plain := by
    have same := (perform_of_isPlain plain layer s w).1
    exact ⟨same.connection?_eq, same.inTransaction_eq⟩

end Use

namespace Session

/-- Whatever was done with a session before, and whatever its data layer does from here on, a use of it that
comes to a call reports the first failure of the steps to that call and of the call itself: of connecting
and of opening the connection before it outside a transaction, of nothing else inside one. A row that does
not fit is reported only when all of them are done and the connection is closed. What comes of closing, or
of the rollback behind a commit that failed, changes neither the answer nor the session. A start that fails
leaves the session as it was, and idle; a commit and a rollback leave it idle and else as it was; no other
use takes it out of its transaction. Disposing of it reports what a rollback reports. -/
theorem performAll_reports (layer : DataLayer σ) (target : String) (uses : List (Use α)) (w : World σ) :
    let s := (Use.performAll layer (.new target) uses w).1
    (∀ (use : Use α) (w' : World σ), use.Reported layer s w') ∧
      ∀ w', (s.dispose layer w').1.map (fun _ => none) = ((.rollback : Use α).perform layer s w').1.1 ∧
        (s.dispose layer w').2 = ((.rollback : Use α).perform layer s w').2 := by
  intro s
  obtain ⟨_, _, _, settled, _⟩ := Use.performAll_new layer target uses w
  exact ⟨fun use w' => Use.reported settled layer use w', fun _ => ⟨rfl, rfl⟩⟩

/-- A commit that fails, with a rollback and a close that fail behind it. -/
theorem performAll_reports_commit :
    let script : Recorder :=
      { failures := [(.rollback, .server "undo"), (.close, .server "close"), (.commit, .server "commit")] }
    let run := Use.performAll Recorder.layer (.new "") [(.begin : Use Unit)] ⟨⟨script, []⟩, 0, none, []⟩
    ((.commit : Use Unit).perform Recorder.layer run.1 run.2).1 = (.error (.server "commit"), run.1.idle) := by
  intro script run
  have reported :=
    (performAll_reports Recorder.layer "" [(.begin : Use Unit)] ⟨⟨script, []⟩, 0, none, []⟩).1 .commit run.2
  obtain ⟨answer, _, made, read, _⟩ := reported.made .commit rfl
  have first : answer = .error (.server "commit") := made.answer_eq
  exact Prod.ext (read.eq_error first) (reported.ended (Or.inl rfl))

end Session

end TypedSql
