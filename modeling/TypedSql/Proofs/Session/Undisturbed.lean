import TypedSql.Proofs.Connection.Discipline
import TypedSql.Proofs.Session.Reported
import TypedSql.Proofs.Statement.Handover

namespace TypedSql

variable {σ σ' α : Type} {layer : DataLayer σ} {layer' : DataLayer σ'} {s s' left : Session} {w : World σ}
  {w' : World σ'} {t : Statement} {opening : Opening} {clauses : List Clause} {call : Call} {command : Command}

namespace Session

/-- Two sessions hold the same statement under the same limit; they may stand on different connections. -/
structure SameDraft (s s' : Session) : Prop extends SameStatement s s' where
  timeout?_eq : s'.timeout? = s.timeout?

theorem SameStatement.command_eq (h : s.SameStatement s') (timeout : Option Nat) (subject : Subject) :
    s'.command timeout subject = s.command timeout subject := by
  cases subject with
  | given text parameters => rfl
  | written => simp only [Session.command, query, h.query?_eq, h.parameters_eq]
  | procedure => simp only [Session.command, h.procedure?_eq]

theorem Started.timeout?_eq {r : (Except Failure Unit × Session) × World σ} (h : Started layer s w r) :
    r.1.2.timeout? = s.timeout? := by
  cases h <;> rfl

theorem Ended.timeout?_eq {r : (Except Failure Unit × Session) × World σ} (h : s.Ended call w r) :
    r.1.2.timeout? = s.timeout? := by
  cases h <;> rfl

/-- A call with a command that a session made: on the connection it holds there is that one event; where it holds
none, a connection is made for the call, and none is left behind. -/
structure Sent (s : Session) (call : Call) (command : Command) (w w' : World σ) : Prop where
  timeout?_eq : w'.timeout? = w.timeout?
  sent : ∃ events, w'.trace = w.trace ++ events ∧
    (handedOver events = [command] ∨ handedOver events = [] ∧ Unreached events) ∧
    (∀ handle, s.connection? = some handle → ∃ ok, events = [⟨handle, call, ok⟩]) ∧
    (s.connection? = none → live events = [] ∧ ∀ e ∈ events, e.handle = w.handles + 1)

theorem Settled.sent_dispatch (settled : s.Settled) (carries : call.command? = some command) (layer : DataLayer σ)
    (w : World σ) : s.Sent call command w (s.dispatch layer call w).2 := by
  have kind : call.kind = .command := by
    cases call <;> first | rfl | cases carries
  cases held : s.connection? with
  | some handle =>
    rw [dispatch_inside held (settled.active_of_some held), layer.send_apply handle call w rfl]
    refine ⟨rfl, _, rfl, Or.inl (handedOver_singleton carries _), ?_, ?_⟩
    · intro other same
      cases held.symm.trans same
      exact ⟨_, rfl⟩
    · intro none
      cases held.symm.trans none
  | none =>
    obtain ⟨events, answer, state, alone, run⟩ := layer.sendAlone_spec s.target call w
    rw [dispatch_idle held, run]
    refine ⟨rfl, events, rfl, alone.handedOver carries, ?_, ?_⟩
    · intro handle same
      cases held.symm.trans same
    · intro _
      have life := alone.life kind
      exact ⟨life.orderly.live_eq, life.handle_eq⟩

end Session

namespace Use

variable {use : Use α}

/-- A statement that is given on the spot, and is no part of what the session is writing. -/
def isGiven : Use α → Bool
  | .query _ _ _ => true
  | .execute _ _ => true
  | _ => false

/-- The limit that a use gives to the session. -/
def limit? : Use α → Option Nat
  | .setTimeout seconds => some seconds
  | _ => none

theorem sent_perform (settled : s.Settled) (comes : use.call? s w.timeout? = some call)
    (carries : call.command? = some command) (layer : DataLayer σ) :
    s.Sent call command w (use.perform layer s w).2 := by
  rw [(perform_of_isPlain (isPlain_of_call? comes) layer s w).2, comes]
  exact settled.sent_dispatch carries layer w

theorem perform_of_isGiven (given : use.isGiven = true) (layer : DataLayer σ) (s : Session) (w : World σ) :
    (use.perform layer s w).1.2 = s := by
  cases use with
  | query text parameters take => rfl
  | execute text parameters => rfl
  | _ => cases given

theorem timeout?_perform (settled : s.Settled) (layer : DataLayer σ) (use : Use α) (w : World σ) :
    (use.perform layer s w).1.2.timeout? = (use.limit? <|> s.timeout?) := by
  cases use with
  | begin => exact (settled.started_begin layer w).timeout?_eq
  | commit => exact (settled.ended_commit layer w).timeout?_eq
  | rollback => exact (settled.ended_rollback layer w).timeout?_eq
  | write opening clauses terminal? =>
    have goes := written layer s opening clauses terminal? w
    generalize (write opening clauses terminal?).perform layer s w = r at goes ⊢
    generalize (write opening clauses terminal?).call? s w.timeout? = call? at goes
    cases goes with
    | unadmitted added => rfl
    | failed added => exact (Statement.sameSetting_written added).1.timeout?_eq
    | unrun added unasked => exact ((Statement.sameSetting_written added).2 _ rfl).timeout?_eq
    | run added asked admitted => exact ((Statement.sameSetting_written added).2 _ rfl).timeout?_eq
  | _ => rfl

theorem session_write_unadmitted {terminal? : Option (Statement.Terminal α)} (layer : DataLayer σ) (w : World σ)
    (added : (Statement.start s opening).addAll? clauses = none) :
    ((write opening clauses terminal?).perform layer s w).1.2 = s := by
  simp only [perform, added]
  rfl

/-- What two sessions hold stays the same through one use, on whatever connections and data layers they are. -/
theorem sameDraft_perform (settled : s.Settled) (settled' : s'.Settled) (h : s.SameDraft s') (use : Use α)
    (layer : DataLayer σ) (layer' : DataLayer σ') (w : World σ) (w' : World σ') :
    (use.perform layer s w).1.2.SameDraft (use.perform layer' s' w').1.2 := by
  refine ⟨?_, ?_⟩
  · cases apart : use.isWrite with
    | false =>
      have kept := sameStatement_perform settled apart layer w
      have kept' := sameStatement_perform settled' apart layer' w'
      exact (kept.symm.trans h.toSameStatement).trans kept'
    | true =>
      cases use with
      | write opening clauses terminal? =>
        have alike := Statement.writtenAlike s s' opening clauses
        generalize added : (Statement.start s opening).addAll? clauses = result at alike
        generalize added' : (Statement.start s' opening).addAll? clauses = result' at alike
        cases alike with
        | unadmitted =>
          rw [session_write_unadmitted layer w added, session_write_unadmitted layer' w' added']
          exact h.toSameStatement
        | failed failure same =>
          rw [session_write layer w added, session_write layer' w' added']
          exact same
        | added stage same =>
          rw [session_write layer w added, session_write layer' w' added']
          exact same
      | _ => cases apart
  · rw [timeout?_perform settled, timeout?_perform settled', h.timeout?_eq]

/-- A chain comes to the same call in any two sessions with the same limit, whatever they held before. -/
theorem call?_write (same : s'.timeout? = s.timeout?) (opening : Opening) (clauses : List Clause)
    (terminal? : Option (Statement.Terminal α)) (default? : Option Nat) :
    (write opening clauses terminal?).call? s' default? = (write opening clauses terminal?).call? s default? := by
  cases terminal? with
  | none => rfl
  | some terminal =>
    have alike := Statement.writtenAlike s s' opening clauses
    generalize added : (Statement.start s opening).addAll? clauses = result at alike
    generalize added' : (Statement.start s' opening).addAll? clauses = result' at alike
    cases alike with
    | unadmitted => simp only [call?, added, added']
    | failed failure _ => simp only [call?, added, added']
    | @added stage written written' _ _ alike =>
      have limit := ((Statement.sameSetting_written added).2 _ rfl).timeout?_eq
      have limit' := ((Statement.sameSetting_written added').2 _ rfl).timeout?_eq
      simp only at limit limit'
      simp only [call?, added, added', Statement.call?, limit, limit', same, alike.command_eq]

/-- What a session holds is as if nothing had ever been given to it on the spot. -/
theorem sameDraft_performAll (settled : s.Settled) (settled' : s'.Settled) (h : s.SameDraft s') (uses : List (Use α))
    (layer : DataLayer σ) (layer' : DataLayer σ') (w : World σ) (w' : World σ') :
    (performAll layer s uses w).1.SameDraft (performAll layer' s' (uses.filter (!·.isGiven)) w').1 := by
  induction uses generalizing s s' w w' with
  | nil => exact h
  | cons use rest ih =>
    obtain ⟨_, moved⟩ := perform_moved settled layer use w
    cases given : use.isGiven with
    | true =>
      rw [List.filter_cons_of_neg (by simp [given])]
      refine ih moved.settled settled' ?_ (use.perform layer s w).2 w'
      rw [perform_of_isGiven given]
      exact h
    | false =>
      rw [List.filter_cons_of_pos (by simp [given])]
      obtain ⟨_, moved'⟩ := perform_moved settled' layer' use w'
      exact ih moved.settled moved'.settled (sameDraft_perform settled settled' h use layer layer' w w')
        (use.perform layer s w).2 (use.perform layer' s' w').2

/-- A use that runs one command and leaves the session `kept` as it is. -/
structure LeavesAlone (layer : DataLayer σ) (s kept : Session) (use : Use α) (call : Call) (command : Command)
    (w : World σ) : Prop where
  session_eq : (use.perform layer s w).1.2 = kept
  sent : s.Sent call command w (use.perform layer s w).2

theorem leavesAlone_query (settled : s.Settled) (layer : DataLayer σ) (text : String) (parameters : Parameters)
    (take : Session.Take α) (w : World σ) :
    let command := Command.statement text parameters (s.timeout? <|> w.timeout?)
    (query text parameters take).LeavesAlone layer s s (.query command) command w :=
  ⟨rfl, sent_perform settled rfl rfl layer⟩

theorem leavesAlone_execute (settled : s.Settled) (layer : DataLayer σ) (text : String) (parameters : Parameters)
    (w : World σ) :
    let command := Command.statement text parameters (s.timeout? <|> w.timeout?)
    (execute text parameters : Use α).LeavesAlone layer s s (.execute command) command w :=
  ⟨rfl, sent_perform settled rfl rfl layer⟩

theorem leavesAlone_write (settled : s.Settled) {terminal : Statement.Terminal α}
    (added : (Statement.start s opening).addAll? clauses = some (.ok t, left))
    (admitted : terminal.admitted t.stage = true) (layer : DataLayer σ) (w : World σ) :
    ∃ command, t.session.command (s.timeout? <|> w.timeout?) terminal.subject = .ok command ∧
      (write opening clauses (some terminal)).LeavesAlone layer s t.session (terminal.call command) command w := by
  have limit := ((Statement.sameSetting_written added).2 t rfl).timeout?_eq
  obtain ⟨command, comes, call⟩ := call?_of_admitted added admitted w.timeout?
  rw [limit] at comes
  have carries := terminal.command?_call command
  exact ⟨command, comes, session_write layer w added, sent_perform settled call carries layer⟩

end Use

namespace Session

/-- Whatever was done with a session before, and whatever its data layer does from here on, running something
leaves the session as it is: all of it where a statement is given on the spot, and where a chain is run all of it
as the clauses left it. One command is sent, or none where no connection is to be had, and a connection that is held
stays held. What is given on the spot is sent with its own text and parameters; and what the session holds, and with
it every call that a chain comes to, is as if nothing had ever been given on the spot. -/
theorem performAll_undisturbed (layer : DataLayer σ) (target : String) (uses : List (Use α)) (w : World σ) :
    let s := (Use.performAll layer (.new target) uses w).1
    (∀ text parameters (w' : World σ),
      let command := Command.statement text parameters (s.timeout? <|> w'.timeout?)
      (∀ {β : Type} (take : Take β),
        (Use.query text parameters take).LeavesAlone layer s s (.query command) command w') ∧
      (Use.execute text parameters : Use α).LeavesAlone layer s s (.execute command) command w') ∧
    (∀ opening clauses t left, (Statement.start s opening).addAll? clauses = some (.ok t, left) →
      s.SameSetting t.session ∧
      ∀ {β : Type} (terminal : Statement.Terminal β) (w' : World σ), terminal.admitted t.stage = true →
        ∃ command, t.session.command (s.timeout? <|> w'.timeout?) terminal.subject = .ok command ∧
          (Use.write opening clauses (some terminal)).LeavesAlone layer s t.session (terminal.call command) command
            w') ∧
    ∀ (layer' : DataLayer σ') (w' : World σ'),
      let s' := (Use.performAll layer' (.new target) (uses.filter (!·.isGiven)) w').1
      s.SameDraft s' ∧ ∀ opening clauses (terminal? : Option (Statement.Terminal α)) default?,
        (Use.write opening clauses terminal?).call? s' default? =
          (Use.write opening clauses terminal?).call? s default? := by
  intro s
  obtain ⟨_, _, _, settled, _⟩ := Use.performAll_new layer target uses w
  refine ⟨?_, ?_, ?_⟩
  · intro text parameters w' command
    exact ⟨fun take => Use.leavesAlone_query settled layer text parameters take w',
      Use.leavesAlone_execute settled layer text parameters w'⟩
  · intro opening clauses t left added
    exact ⟨(Statement.sameSetting_written added).2 t rfl,
      fun terminal w' admitted => Use.leavesAlone_write settled added admitted layer w'⟩
  · intro layer' w' s'
    have draft : s.SameDraft s' := Use.sameDraft_performAll (settled_new target) (settled_new target)
      ⟨⟨rfl, rfl, rfl⟩, rfl⟩ uses layer layer' w w'
    exact ⟨draft, Use.call?_write draft.timeout?_eq⟩

/-- A statement at hand in a transaction in which no command succeeds. -/
theorem performAll_undisturbed_refused :
    let script : Recorder := { failures := [(.query, .server "gone"), (.execute, .timeout 3)] }
    let w : World Recorder.State := ⟨⟨script, []⟩, 0, none, []⟩
    let key := Parameters.empty.bind "id" (.int 5)
    let uses : List (Use Unit) :=
      [.write (.select ["Id"]) [.fromTable "Users" none, .filter "Id = @id" key] none, .begin,
        .query "SELECT 1" .empty .rows]
    let run := Use.performAll Recorder.layer (.new "") uses w
    let other := (Use.performAll Recorder.layer (.new "") (uses.filter (!·.isGiven)) w).1
    run.1.query? = some "SELECT Id FROM Users WHERE Id = @id" ∧ run.1.connection? = some 1 ∧
      run.1.SameDraft other ∧
      ((Use.execute "DELETE FROM Cache" .empty : Use Unit).perform Recorder.layer run.1 run.2).1.2 = run.1 ∧
      ∃ t left command, (Statement.start run.1 (.deleteFrom "Users")).addAll? [.filter "Id = @id" key] =
          some (.ok t, left) ∧
        (.execute : Statement.Terminal Unit).admitted t.stage = true ∧
        (Use.write (.deleteFrom "Users") [.filter "Id = @id" key]
          (some (.execute : Statement.Terminal Unit))).LeavesAlone Recorder.layer run.1 t.session (.execute command)
            command run.2 := by
  intro script w key uses run other
  obtain ⟨given, written, apart⟩ := performAll_undisturbed Recorder.layer "" uses w
  obtain ⟨t, left, added, admitted⟩ : ∃ t left,
      (Statement.start run.1 (.deleteFrom "Users")).addAll? [.filter "Id = @id" key] = some (.ok t, left) ∧
        (.execute : Statement.Terminal Unit).admitted t.stage = true := ⟨_, _, rfl, rfl⟩
  obtain ⟨command, _, alone⟩ := (written _ _ t left added).2 (.execute : Statement.Terminal Unit) run.2 admitted
  exact ⟨rfl, rfl, (apart Recorder.layer w).1, (given "DELETE FROM Cache" .empty run.2).2.session_eq,
    t, left, command, added, admitted, alone⟩

end Session

end TypedSql
