import TypedSql.Proofs.Session.Dispatch
import TypedSql.SqlServer.Layer

namespace TypedSql.SqlServer

variable {τ α : Type} {server : Server τ} {target : String} {handle : Handle} {call : Call}
  {s s' : State (τ × List Request)} {events : List Event}

/-- A server that keeps the requests it gets, beside the state of the one that answers them. -/
def Server.recorded (server : Server τ) : Server (τ × List Request) where
  login settings s :=
    let (answer, state) := server.login settings s.1
    (answer, (state, s.2))
  respond request s :=
    let (response, state) := server.respond request s.1
    (response, (state, s.2 ++ [request]))

def State.requests (s : State (τ × List Request)) : List Request := s.server.2

/-- The request that a command is sent as. -/
def Request.ofCommand (command : Command) (countRows : Bool) : Request :=
  .new (commandText command countRows) command.parameters

/-- The requests that a call puts to the server when its connection is open. -/
def requestsOf : Call → List Request
  | .begin => [⟨"BEGIN TRANSACTION", []⟩]
  | .commit => [⟨"COMMIT TRANSACTION", []⟩]
  | .rollback => [⟨"ROLLBACK TRANSACTION", []⟩]
  | .execute command => [.new (commandText command true) command.parameters]
  | .query command => [.new (commandText command false) command.parameters]
  | _ => []

theorem requests_request (server : Server τ) (s : State (τ × List Request)) (handle : Handle)
    (timeout : Option Nat) (request : Request) :
    (s.request server.recorded handle timeout request).2.requests =
      s.requests ++ if s.isOpen handle then [request] else [] := by
  unfold State.request
  cases s.isOpen handle with
  | false => simp
  | true =>
    simp only [if_true, Server.recorded]
    split <;> rfl

theorem requests_openUp (server : Server τ) (s : State (τ × List Request)) (handle : Handle) :
    (s.openUp server.recorded handle).2.requests = s.requests := by
  unfold State.openUp
  cases s.connection? handle with
  | none => rfl
  | some connection =>
    by_cases connected : connection.isOpen = true
    · simp only [if_pos connected]
    · cases admitted : server.login connection.settings s.server.1 with
      | mk answer state =>
        cases answer <;> simp [connected, Server.recorded, admitted, State.requests, State.setOpen]

theorem requests_answer (server : Server τ) (handle : Handle) (call : Call) (s : State (τ × List Request)) :
    ((layer server.recorded).answer handle call s).2.requests =
      s.requests ++ if s.isOpen handle then requestsOf call else [] := by
  cases call with
  | connect target =>
    simp only [layer, requestsOf]
    split <;> simp [State.requests, State.add]
  | openUp => simpa [layer, requestsOf] using requests_openUp server s handle
  | close => simp [layer, requestsOf, State.requests, State.setOpen]
  | begin => exact requests_request server s handle none _
  | commit => exact requests_request server s handle none _
  | rollback => exact requests_request server s handle none _
  | execute command => exact requests_request server s handle command.timeout _
  | query command => exact requests_request server s handle command.timeout _

theorem requests_of_answer {answer : Except Failure call.Answer}
    (h : (layer server.recorded).answer handle call s = (answer, s')) :
    s'.requests = s.requests ∨ s'.requests = s.requests ++ requestsOf call := by
  have reached := requests_answer server handle call s
  rw [h] at reached
  split at reached
  next => exact Or.inr reached
  next => exact Or.inl (reached.trans (List.append_nil _))

theorem requests_attempt {answer : Except Failure call.Answer}
    (h : Attempt (layer server.recorded) handle call s events answer s') :
    s'.requests = s.requests ∨ s'.requests = s.requests ++ requestsOf call := by
  cases h with
  | unopened found refused =>
    have opening := requests_answer server handle .openUp s
    rw [refused] at opening
    exact Or.inl (by simpa [requestsOf] using opening)
  | @opened state' _ _ found granted made =>
    have opening := requests_answer server handle .openUp s
    rw [granted] at opening
    have same : state'.requests = s.requests := by simpa [requestsOf] using opening
    rw [← same]
    exact requests_of_answer made
  | found found made => exact requests_of_answer made

/-- Whatever comes of a command, the server gets the request of that command or nothing. -/
theorem requests_dispatch (server : Server τ) (session : Session) (call : Call)
    (w : World (State (τ × List Request))) :
    (session.dispatch (layer server.recorded) call w).2.layer.requests = w.layer.requests ∨
      (session.dispatch (layer server.recorded) call w).2.layer.requests =
        w.layer.requests ++ requestsOf call := by
  unfold Session.dispatch
  cases session.transaction? with
  | some handle =>
    obtain ⟨answer, state, made⟩ : ∃ answer state,
        (layer server.recorded).answer handle call w.layer = (answer, state) := ⟨_, _, rfl⟩
    simp only [(layer server.recorded).send_apply handle call w made, World.after_layer]
    exact requests_of_answer made
  | none =>
    obtain ⟨events, answer, state, alone, run⟩ :=
      (layer server.recorded).sendAlone_spec session.target call w
    simp only [run, World.after_layer]
    cases alone with
    | refused asked =>
      have asking := requests_answer server (w.handles + 1) (.connect session.target) w.layer
      rw [asked] at asking
      exact Or.inl (by simpa [requestsOf] using asking)
    | @connected state' state'' _ _ _ _ asked attempt released =>
      have asking := requests_answer server (w.handles + 1) (.connect session.target) w.layer
      rw [asked] at asking
      have closing := requests_answer server (w.handles + 1) .close state''
      rw [released] at closing
      have before : state'.requests = w.layer.requests := by simpa [requestsOf] using asking
      have after : state.requests = state''.requests := by simpa [requestsOf] using closing
      rw [after, ← before]
      exact requests_attempt attempt

end TypedSql.SqlServer

namespace TypedSql.Statement

open SqlServer

variable {τ α : Type} {t : Statement}

def Terminal.countsRows : Terminal α → Bool
  | .execute => true
  | .callExecute => true
  | _ => false

theorem Terminal.requestsOf_call (terminal : Terminal α) (command : Command) :
    requestsOf (terminal.call command) = [.ofCommand command terminal.countsRows] := by
  cases terminal <;> rfl

/-- Whatever comes of a statement, the server gets the request of its command or nothing. -/
theorem requests_finish_command {terminal : Terminal α} {command : Command}
    {w : World (State (τ × List Request))}
    (comes : t.session.command (t.session.timeout? <|> w.timeout?) terminal.subject = .ok command)
    (server : Server τ) :
    (t.finish (layer server.recorded) terminal w).2.layer.requests = w.layer.requests ∨
      (t.finish (layer server.recorded) terminal w).2.layer.requests =
        w.layer.requests ++ [.ofCommand command terminal.countsRows] := by
  rw [finish_world_command comes, ← terminal.requestsOf_call]
  exact requests_dispatch server t.session (terminal.call command) w

end TypedSql.Statement
