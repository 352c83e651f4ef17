import TypedSql.Proofs.Session.Answers
import TypedSql.Proofs.Session.Routing
import TypedSql.Proofs.SqlServer.RowSets

namespace TypedSql

namespace SqlServer

variable {τ : Type} {server : Server τ} {s s' : State τ} {handle : Handle} {call : Call}
  {command : Command} {reply : Reply} {failure : Failure}

theorem Cell.server_of_eq_error {cell : Cell} (h : cell.toValue = .error failure) :
    ∃ message, failure = .server message := by
  have moment : ∀ {days nanoseconds : Int}, ofMoment days nanoseconds = .error failure →
      ∃ message, failure = .server message := by
    intro days nanoseconds h
    unfold ofMoment at h
    split at h
    next => cases h
    next => exact ⟨_, (Except.error.inj h).symm⟩
  cases cell with
  | date days => exact moment h
  | dateTime days ticks => exact moment h
  | dateTime2 days units scale => exact moment h
  | smallDateTime days minutes =>
    change (if minutes < 1440 then ofMoment _ _ else .error _) = _ at h
    split at h
    next => exact moment h
    next => exact ⟨_, (Except.error.inj h).symm⟩
  | time units scale =>
    delta toValue at h
    dsimp only at h
    split at h
    next => cases h
    next => exact ⟨_, (Except.error.inj h).symm⟩
  | dateTimeOffset days units scale offset =>
    change (if offset.natAbs ≤ 840 then ofMoment _ _ else .error _) = _ at h
    split at h
    next => exact moment h
    next => exact ⟨_, (Except.error.inj h).symm⟩
  | _ => cases h

theorem Reply.server_of_eq_error (h : reply.resultSets = .error failure) :
    ∃ message, failure = .server message := by
  obtain ⟨_, _, _, _, _, _, failed⟩ := Reply.exists_cell_of_resultSets h
  exact Cell.server_of_eq_error failed

theorem executeOutcome_ne_timeout (command : Command) (reply : Reply) (seconds : Nat) :
    executeOutcome command reply ≠ .error (.timeout seconds) := by
  intro h
  unfold executeOutcome at h
  split at h
  next =>
    cases sets : reply.resultSets with
    | ok _ => simp [sets, Except.map] at h
    | error failure =>
      simp only [sets, Except.map, Except.error.injEq] at h
      obtain ⟨message, same⟩ := Reply.server_of_eq_error sets
      cases h.symm.trans same
  next => cases h

theorem queryOutcome_ne_timeout (command : Command) (reply : Reply) (seconds : Nat) :
    queryOutcome command reply ≠ .error (.timeout seconds) := by
  intro h
  unfold queryOutcome at h
  cases sets : reply.resultSets with
  | ok _ => simp [sets, Except.map] at h
  | error failure =>
    simp only [sets, Except.map, Except.error.injEq] at h
    obtain ⟨message, same⟩ := Reply.server_of_eq_error sets
    cases h.symm.trans same

theorem Response.reply?_ne_timeout (response : Response) (seconds : Nat) :
    response.reply? ≠ .error (.timeout seconds) := by
  intro h
  cases response with
  | reply answer =>
    simp only [reply?] at h
    split at h <;> cases h
  | silence => cases h
  | hangUp => cases h

namespace State

theorem isOpen_setOpen_false (s : State τ) (handle : Handle) :
    (s.setOpen handle false).isOpen handle = false := by
  unfold isOpen connection? setOpen
  simp only [List.find?_map, Function.comp_def]
  cases found : s.connections.find? fun entry => decide (entry.1 = handle) with
  | none => rfl
  | some entry =>
    have here : entry.1 = handle := by simpa using List.find?_some found
    simp [here]

theorem request_of_closed (closed : s.isOpen handle = false) (server : Server τ) (timeout : Option Nat)
    (request : Request) : s.request server handle timeout request = (.error .notOpen, s) := by
  simp [State.request, closed]

/-- A client that waited in vain is dropped. -/
theorem isOpen_of_timeout {timeout : Option Nat} {request : Request} {seconds : Nat}
    (h : s.request server handle timeout request = (.error (.timeout seconds), s')) :
    s'.isOpen handle = false := by
  unfold State.request at h
  cases answered : server.respond request s.server with
  | mk response state =>
    simp only [answered] at h
    split at h
    next =>
      split at h
      next =>
        cases h
        exact isOpen_setOpen_false _ _
      next => exact absurd (congrArg Prod.fst h) (Response.reply?_ne_timeout _ seconds)
    next => cases h

end State

/-- A connection without a client refuses whatever would be put to the server. -/
theorem answer_of_closed (closed : s.isOpen handle = false) (asks : call.kind.asks = true) (server : Server τ) :
    (layer server).answer handle call s = (.error .notOpen, s) := by
  cases call with
  | connect target => cases asks
  | openUp => cases asks
  | close => cases asks
  | begin => simp only [layer, State.batch, State.request_of_closed closed]; rfl
  | commit => simp only [layer, State.batch, State.request_of_closed closed]; rfl
  | rollback => simp only [layer, State.batch, State.request_of_closed closed]; rfl
  | execute command => simp only [layer, run, State.request_of_closed closed]; rfl
  | query command => simp only [layer, run, State.request_of_closed closed]; rfl

theorem isOpen_of_answer_timeout {seconds : Nat} (kind : call.kind = .command)
    (h : (layer server).answer handle call s = (.error (.timeout seconds), s')) :
    s'.isOpen handle = false := by
  have dropped : ∀ {α : Type} {command : Command} {countRows : Bool} {read : Reply → Except Failure α},
      (∀ reply, read reply ≠ .error (.timeout seconds)) →
      run server s handle command countRows read = (.error (.timeout seconds), s') →
      s'.isOpen handle = false := by
    intro α command countRows read timely ran
    unfold run at ran
    cases asked : s.request server handle command.timeout
        (.new (commandText command countRows) command.parameters) with
    | mk answer state =>
      rw [asked] at ran
      cases answer with
      | ok reply => exact absurd (congrArg Prod.fst ran) (timely reply)
      | error failure =>
        cases ran
        exact State.isOpen_of_timeout asked
  cases call with
  | execute command => exact dropped (fun reply => executeOutcome_ne_timeout command reply seconds) h
  | query command => exact dropped (fun reply => queryOutcome_ne_timeout command reply seconds) h
  | _ => cases kind

end SqlServer

open SqlServer

variable {τ α : Type} {server : Server τ} {s : Session} {handle : Handle} {w : World (State τ)}

/-- A use that ends a transaction. -/
def Use.ends : Use α → Bool
  | .commit => true
  | .rollback => true
  | _ => false

/-- Commands on a connection that refused them. -/
def Refused (handle : Handle) (events : List Event) : Prop :=
  ∀ e ∈ events, e.handle = handle ∧ e.call.kind = .command ∧ e.succeeded = false

namespace Session

/-- The session is in a transaction whose connection has lost its client. -/
structure Stranded (s : Session) (handle : Handle) (w : World (State τ)) : Prop where
  held : s.connection? = some handle
  active : s.inTransaction = true
  closed : w.layer.isOpen handle = false

namespace Stranded

theorem of_sameConnection {s' : Session} (h : s.Stranded handle w) (same : s.SameConnection s')
    (events : List Event) : s'.Stranded handle (w.after w.layer w.handles events) where
  held := same.connection?_eq.trans h.held
  active := same.inTransaction_eq.trans h.active
  closed := h.closed

theorem dispatch (h : s.Stranded handle w) {call : Call} (kind : call.kind = .command) (server : Server τ) :
    s.dispatch (layer server) call w =
      (.error .notOpen, w.after w.layer w.handles [⟨handle, call, false⟩]) := by
  have asks : call.kind.asks = true := by rw [kind]; rfl
  rw [dispatch_inside h.held h.active]
  exact (layer server).send_apply handle call w (answer_of_closed h.closed asks server)

/-- One use that does not end the transaction leaves everything as it is, and a command is refused. -/
theorem perform (h : s.Stranded handle w) {use : Use α} (stays : use.ends = false) (server : Server τ) :
    ∃ events, Refused handle events ∧
      (use.perform (layer server) s w).2 = w.after w.layer w.handles events ∧
      (use.perform (layer server) s w).1.2.Stranded handle (use.perform (layer server) s w).2 := by
  by_cases plain : use.isPlain = true
  · obtain ⟨same, world⟩ := Use.perform_of_isPlain plain (layer server) s w
    cases comes : use.call? s w.timeout? with
    | none =>
      rw [comes] at world
      refine ⟨[], List.forall_mem_nil _, ?_, ?_⟩
      · rw [world]
        simp [World.after]
      · rw [world]
        exact ⟨same.connection?_eq.trans h.held, same.inTransaction_eq.trans h.active, h.closed⟩
    | some call =>
      have kind := Use.kind_of_call? comes
      simp only [comes, h.dispatch kind server] at world
      refine ⟨_, ?_, world, ?_⟩
      · intro e he
        rw [List.mem_singleton.mp he]
        exact ⟨rfl, kind, rfl⟩
      · rw [world]
        exact h.of_sameConnection same _
  · cases use with
    | begin =>
      have run : (Use.begin : Use α).perform (layer server) s w = ((.ok none, s), w) := by
        simp only [Use.perform, Action.bind_apply, begin_of_active h.active]
        rfl
      rw [run]
      exact ⟨[], List.forall_mem_nil _, by simp [World.after], h⟩
    | commit => cases stays
    | rollback => cases stays
    | _ => exact absurd rfl plain

theorem refuses (h : s.Stranded handle w) {use : Use α} {call : Call}
    (comes : use.call? s w.timeout? = some call) (server : Server τ) :
    (use.perform (layer server) s w).1.1 = .error .notOpen := by
  apply (Use.readOff_perform comes (layer server)).eq_error
  rw [h.dispatch (Use.kind_of_call? comes) server]

theorem performAll (h : s.Stranded handle w) {uses : List (Use α)} (stay : ∀ use ∈ uses, use.ends = false)
    (server : Server τ) :
    ∃ events, Refused handle events ∧
      (Use.performAll (layer server) s uses w).2 = w.after w.layer w.handles events ∧
      (Use.performAll (layer server) s uses w).1.Stranded handle (Use.performAll (layer server) s uses w).2 := by
  -- Being stranded is the invariant: no use but one that ends the transaction gets out of it.
  induction uses generalizing s w with
  | nil => exact ⟨[], List.forall_mem_nil _, by simp [Use.performAll, World.after, Action.pure_apply], h⟩
  | cons use rest ih =>
    obtain ⟨here, refused, world, stranded⟩ := h.perform (stay use List.mem_cons_self) server
    obtain ⟨later, refused', world', stranded'⟩ :=
      ih stranded fun other mem => stay other (List.mem_cons_of_mem _ mem)
    have unfolds : Use.performAll (layer server) s (use :: rest) w =
        Use.performAll (layer server) (use.perform (layer server) s w).1.2 rest
          (use.perform (layer server) s w).2 := rfl
    rw [unfolds]
    refine ⟨here ++ later, List.forall_mem_append.mpr ⟨refused, refused'⟩, ?_, stranded'⟩
    rw [world', world, World.after_after, World.after_layer, World.after_handles]

theorem commit (h : s.Stranded handle w) (server : Server τ) :
    s.commit (layer server) w = ((.error .notOpen, s.idle),
      w.after (w.layer.setOpen handle false) w.handles
        [⟨handle, .commit, false⟩, ⟨handle, .rollback, false⟩, ⟨handle, .close, true⟩]) := by
  have committed : (layer server).answer handle .commit w.layer = (.error .notOpen, w.layer) :=
    answer_of_closed h.closed rfl server
  have undone : (layer server).answer handle .rollback w.layer = (.error .notOpen, w.layer) :=
    answer_of_closed h.closed rfl server
  have closed : (layer server).answer handle .close w.layer = (.ok (), w.layer.setOpen handle false) := rfl
  simp only [Session.commit, h.held, h.active, if_true, Action.bind_apply,
    (layer server).send_apply handle .commit w committed, (layer server).send_after handle .rollback w undone,
    (layer server).release_after handle w closed]
  rfl

theorem rollback (h : s.Stranded handle w) (server : Server τ) :
    s.rollback (layer server) w = ((.error .notOpen, s.idle),
      w.after (w.layer.setOpen handle false) w.handles
        [⟨handle, .rollback, false⟩, ⟨handle, .close, true⟩]) := by
  have undone : (layer server).answer handle .rollback w.layer = (.error .notOpen, w.layer) :=
    answer_of_closed h.closed rfl server
  have closed : (layer server).answer handle .close w.layer = (.ok (), w.layer.setOpen handle false) := rfl
  simp only [Session.rollback, h.held, h.active, if_true, Action.bind_apply,
    (layer server).send_apply handle .rollback w undone, (layer server).release_after handle w closed]
  rfl

theorem ends (h : s.Stranded handle w) {last : Use α} (ends : last.ends = true) (server : Server τ) :
    ∃ events, last.perform (layer server) s w = ((.error .notOpen, s.idle),
      w.after (w.layer.setOpen handle false) w.handles events) := by
  cases last with
  | commit =>
    refine ⟨[⟨handle, .commit, false⟩, ⟨handle, .rollback, false⟩, ⟨handle, .close, true⟩], ?_⟩
    simp only [Use.perform, Action.bind_apply, h.commit server]
    rfl
  | rollback =>
    refine ⟨[⟨handle, .rollback, false⟩, ⟨handle, .close, true⟩], ?_⟩
    simp only [Use.perform, Action.bind_apply, h.rollback server]
    rfl
  | _ => cases ends

theorem dispose (h : s.Stranded handle w) (server : Server τ) :
    (s.dispose (layer server) w).1 = .error .notOpen ∧
      (s.dispose (layer server) w).2.layer.server = w.layer.server := by
  have run : s.dispose (layer server) w = ((s.rollback (layer server) w).1.1, (s.rollback (layer server) w).2) := rfl
  rw [run, h.rollback server]
  exact ⟨rfl, rfl⟩

end Stranded

/-- A command that runs out of time leaves its transaction stranded. -/
theorem Settled.stranded {seconds : Nat} {call : Call} {use : Use α} (settled : s.Settled)
    (active : s.inTransaction = true) (comes : use.call? s w.timeout? = some call)
    (late : (use.perform (layer server) s w).1.1 = .error (.timeout seconds)) :
    ∃ handle, s.connection? = some handle ∧
      (use.perform (layer server) s w).1.2.Stranded handle (use.perform (layer server) s w).2 := by
  obtain ⟨handle, held⟩ := settled.active_iff.mp active
  obtain ⟨same, world⟩ := Use.perform_of_isPlain (Use.isPlain_of_call? comes) (layer server) s w
  have sent := dispatch_inside held active (layer server) call
  cases answered : (layer server).answer handle call w.layer with
  | mk answer state =>
    have run := (layer server).send_apply handle call w answered
    simp only [comes, sent, run] at world
    have off := Use.readOff_perform comes (layer server)
    rw [sent, run] at off
    rcases off.of_eq_error late with failed | ⟨message, impossible⟩
    · change answer = _ at failed
      subst failed
      refine ⟨handle, held, same.connection?_eq.trans held, same.inTransaction_eq.trans active, ?_⟩
      rw [world]
      exact isOpen_of_answer_timeout (Use.kind_of_call? comes) answered
    · cases impossible

end Session

/-- Once a command has run out of time in a transaction, nothing more gets to the server until the
transaction ends: every command is refused on the connection of the transaction, which stays closed, and so
is the end, whichever it is. Then the session is idle and its next command runs on a new connection. -/
theorem Session.performAll_strands {server : Server τ} {target : String} {before later : List (Use α)}
    {use : Use α} {call : Call} {seconds : Nat} {s s₁ s₂ : Session}
    {w w₁ w₂ w₃ : World (State (τ × List Request))}
    (began : Use.performAll (layer server.recorded) (.new target) before w = (s, w₁))
    (active : s.inTransaction = true) (comes : use.call? s w₁.timeout? = some call)
    (late : use.perform (layer server.recorded) s w₁ = ((.error (.timeout seconds), s₁), w₂))
    (went : Use.performAll (layer server.recorded) s₁ later w₂ = (s₂, w₃))
    (stay : ∀ use ∈ later, use.ends = false) :
    ∃ handle, s.connection? = some handle ∧ w₃.layer = w₂.layer ∧ w₃.layer.isOpen handle = false ∧
      w₃.handles = w₂.handles ∧ (∃ events, w₃.trace = w₂.trace ++ events ∧ Refused handle events) ∧
      (∀ (next : Use α) call, next.call? s₂ w₃.timeout? = some call →
        (next.perform (layer server.recorded) s₂ w₃).1.1 = .error .notOpen) ∧
      (∀ last : Use α, last.ends = true →
        let ((answer, s₃), w₄) := last.perform (layer server.recorded) s₂ w₃
        answer = .error .notOpen ∧ w₄.layer.server = w₂.layer.server ∧ s₃ = s₂.idle ∧
          ∀ (next : Use α) call, next.call? s₃ w₄.timeout? = some call →
            ∃ fresh events answer state, handle < fresh ∧
              Alone (layer server.recorded) target call fresh w₄.layer events answer state ∧
              (next.perform (layer server.recorded) s₃ w₄).2 = w₄.after state fresh events) ∧
      (s₂.dispose (layer server.recorded) w₃).1 = .error .notOpen ∧
        (s₂.dispose (layer server.recorded) w₃).2.layer.server = w₂.layer.server := by
  obtain ⟨_, _, _, settled, _⟩ := Use.performAll_new (layer server.recorded) target before w
  simp only [began] at settled
  obtain ⟨handle, held, stranded⟩ := settled.stranded active comes (congrArg (·.1.1) late)
  simp only [late] at stranded
  obtain ⟨events, refused, world, stranded'⟩ := stranded.performAll stay server.recorded
  simp only [went] at world stranded'
  -- The run so far as one, for the handles and the target of the session as it stands now.
  have whole : Use.performAll (layer server.recorded) (.new target) (before ++ use :: later) w = (s₂, w₃) := by
    rw [Use.performAll_append, began, ← went]
    simp only [Use.performAll, Action.bind_apply, late]
  obtain ⟨_, _, account, _, same⟩ :=
    Use.performAll_new (layer server.recorded) target (before ++ use :: later) w
  simp only [whole, stranded'.held] at account same
  have untouched : w₃.layer = w₂.layer := by rw [world, World.after_layer]
  refine ⟨handle, held, untouched, stranded'.closed, ?_, ⟨events, ?_, refused⟩, ?_, ?_, ?_⟩
  · rw [world, World.after_handles]
  · rw [world, World.after_trace]
  · intro next call comes
    exact stranded'.refuses comes server.recorded
  · intro last ends
    obtain ⟨events', ended⟩ := stranded'.ends ends server.recorded
    rw [ended]
    have kept : w₃.layer.server = w₂.layer.server := congrArg State.server untouched
    refine ⟨rfl, kept, rfl, ?_⟩
    intro next call comes
    obtain ⟨events, answer, state, alone, run⟩ :=
      ((settled_idle s₂).routed (layer server.recorded) _).alone next call rfl comes
    refine ⟨_, events, answer, state, ?_, ?_, run⟩
    · exact Nat.lt_succ_of_le (Nat.le_of_eq account.kept_eq)
    · rw [← same]
      exact alone
  · rw [← untouched]
    exact stranded'.dispose server.recorded

/-- A server that starts transactions and says nothing to anything else. -/
def SqlServer.Server.hanging : Server Unit where
  login _ s := (.ok (), s)
  respond request s := (if request.sql = "BEGIN TRANSACTION" then .reply {} else .silence, s)

theorem Session.performAll_strands_update :
    let layer := layer Server.hanging.recorded
    let opening : List (Use Unit) := [.setTimeout 5, .begin]
    let update : Use Unit := .execute "UPDATE T SET a = 1" .empty
    ∃ s w₁ s₁ w₂ s₂ w₃,
      Use.performAll layer (.new "") opening ⟨⟨[], (), []⟩, 0, none, []⟩ = (s, w₁) ∧
      s.inTransaction = true ∧ update.perform layer s w₁ = ((.error (.timeout 5), s₁), w₂) ∧
      Use.performAll layer s₁ [.begin, update] w₂ = (s₂, w₃) ∧
      (∀ use ∈ [.begin, update], use.ends = false) ∧
      w₃.layer.requests.map (·.sql) = ["BEGIN TRANSACTION", "UPDATE T SET a = 1"] ∧
      ((Use.commit : Use Unit).perform layer s₂ w₃).1.1 = .error .notOpen := by
  intro layer opening update
  obtain ⟨s, w₁, s₁, w₂, s₂, w₃, began, active, comes, late, went, requests⟩ : ∃ s w₁ s₁ w₂ s₂ w₃,
      Use.performAll layer (.new "") opening ⟨⟨[], (), []⟩, 0, none, []⟩ = (s, w₁) ∧
      s.inTransaction = true ∧
      update.call? s w₁.timeout? = some (.execute (.statement "UPDATE T SET a = 1" .empty (some 5))) ∧
      update.perform layer s w₁ = ((.error (.timeout 5), s₁), w₂) ∧
      Use.performAll layer s₁ [.begin, update] w₂ = (s₂, w₃) ∧
      w₂.layer.requests.map (·.sql) = ["BEGIN TRANSACTION", "UPDATE T SET a = 1"] :=
    ⟨_, _, _, _, _, _, rfl, rfl, rfl, rfl, rfl, rfl⟩
  have stay : ∀ use ∈ [.begin, update], use.ends = false := by simp [Use.ends, update]
  obtain ⟨_, _, untouched, _, _, _, _, ended, _⟩ :=
    performAll_strands began active comes late went stay
  refine ⟨s, w₁, s₁, w₂, s₂, w₃, began, active, late, went, stay, ?_, (ended .commit rfl).1⟩
  rw [untouched]
  exact requests

end TypedSql
