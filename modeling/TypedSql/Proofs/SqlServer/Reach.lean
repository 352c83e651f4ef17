import TypedSql.Proofs.SqlServer.Requests

namespace TypedSql

namespace SqlServer

variable {τ : Type} {server : Server τ} {s : Session} {state : τ} {w : World (State τ)}

/-- A command of the session gets to the server, which is then in the given state: over the connection of
the transaction if that is open, else over one that the server admits. -/
inductive Reaches (server : Server τ) (s : Session) (w : World (State τ)) : τ → Prop where
  | inside {handle : Handle} (held : s.transaction? = some handle) (opened : w.layer.isOpen handle = true) :
      Reaches server s w w.layer.server
  | alone {settings : Settings} {state : τ} (idle : s.transaction? = none)
      (understood : readConnectionString s.target = .ok settings)
      (admitted : server.login settings w.layer.server = (.ok (), state)) : Reaches server s w state

theorem State.isOpen_setOpen {layered : State τ} {handle : Handle} {connection : Connection}
    (h : layered.connection? handle = some connection) :
    (layered.setOpen handle true).isOpen handle = true := by
  unfold connection? at h
  obtain ⟨entry, found, rfl⟩ := Option.map_eq_some_iff.mp h
  have here : entry.1 = handle := by simpa using List.find?_some found
  have kept : ((layered.setOpen handle true).connections.find? (·.1 = handle)) =
      some (entry.1, { entry.2 with isOpen := true }) := by
    simp only [setOpen, List.find?_map, Function.comp_def, found, Option.map_some, here, if_true]
  simp only [isOpen, connection?, kept, Option.map_some, Option.any_some]

theorem State.connection?_add {layered : State τ} {handle : Handle} {connection : Connection} :
    (layered.add handle connection).connection? handle = some connection := by
  simp [connection?, add]

theorem State.openUp_of_login {layered : State τ} {handle : Handle} {settings : Settings}
    (made : layered.connection? handle = some { settings })
    (admitted : server.login settings layered.server = (.ok (), state)) :
    layered.openUp server handle = (.ok (), { layered with server := state }.setOpen handle true) := by
  simp [openUp, made, admitted]

theorem Reaches.dispatch (h : Reaches server s w state) (call : Call) :
    ∃ (handle : Handle) (layered : State τ), layered.isOpen handle = true ∧ layered.server = state ∧
      (s.dispatch (layer server) call w).1 = ((layer server).answer handle call layered).1 ∧
      (s.dispatch (layer server) call w).2.layer.server =
        ((layer server).answer handle call layered).2.server := by
  unfold Session.dispatch
  cases h with
  | @inside handle held opened =>
    refine ⟨handle, w.layer, opened, rfl, ?_⟩
    simp only [held, (layer server).send_apply handle call w rfl]
    exact ⟨rfl, rfl⟩
  | @alone settings _ idle understood admitted =>
    obtain ⟨events, answer, last, alone, run⟩ := (layer server).sendAlone_spec s.target call w
    simp only [idle, run]
    -- The connection was just made and is closed, so the command goes out behind the login.
    let fresh : State τ := w.layer.add (w.handles + 1) { settings }
    have made : fresh.connection? (w.handles + 1) = some { settings } := State.connection?_add
    cases alone with
    | refused asked => simp [layer, understood] at asked
    | connected asked attempt released =>
      simp only [layer, understood, Prod.mk.injEq, true_and] at asked
      subst asked
      have closed : (layer server).isOpen (w.handles + 1) fresh = false := by
        simp only [layer, State.isOpen, made, Option.any_some]
      have login := State.openUp_of_login made admitted
      cases attempt with
      | unopened _ refused =>
        cases login.symm.trans refused
      | found opened _ =>
        rw [closed] at opened
        simp at opened
      | opened _ granted answered =>
        obtain ⟨_, rfl⟩ := Prod.mk.inj (login.symm.trans granted)
        have opened :
            ({ fresh with server := state }.setOpen (w.handles + 1) true).isOpen (w.handles + 1) = true :=
          State.isOpen_setOpen made
        refine ⟨w.handles + 1, _, opened, rfl, ?_⟩
        have closing := congrArg (fun closed => closed.2.server) released
        rw [answered]
        exact ⟨rfl, closing.symm⟩

/-- The server gets a command that reaches it, once. -/
theorem Reaches.requests {server : Server τ} {w : World (State (τ × List Request))} {state : τ × List Request}
    (h : Reaches server.recorded s w state) (call : Call) :
    (s.dispatch (layer server.recorded) call w).2.layer.requests = w.layer.requests ++ requestsOf call := by
  obtain ⟨handle, layered, opened, same, -, server_eq⟩ := h.dispatch call
  have kept : state.2 = w.layer.requests := by
    cases h with
    | inside => rfl
    | alone _ _ admitted => exact (congrArg (fun answer => answer.2.2) admitted).symm
  have answered := requests_answer server handle call layered
  rw [if_pos opened] at answered
  calc (s.dispatch (layer server.recorded) call w).2.layer.requests
      = ((layer server.recorded).answer handle call layered).2.requests := congrArg (·.2) server_eq
    _ = layered.requests ++ requestsOf call := answered
    _ = w.layer.requests ++ requestsOf call := by rw [← kept, ← same]; rfl

end SqlServer

namespace Statement

open SqlServer

variable {τ α : Type} {t : Statement}

theorem requests_finish_reached {terminal : Terminal α} {command : Command} {server : Server τ}
    {w : World (State (τ × List Request))} {state : τ × List Request}
    (comes : t.session.command (t.session.timeout? <|> w.timeout?) terminal.subject = .ok command)
    (reaches : Reaches server.recorded t.session w state) :
    (t.finish (layer server.recorded) terminal w).2.layer.requests =
      w.layer.requests ++ [.ofCommand command terminal.countsRows] := by
  rw [finish_world_command comes, reaches.requests, terminal.requestsOf_call]

/-- A statement that is finished is sent as this request, once, if the server is to be reached at all. -/
def Sends (t : Statement) (terminal : Terminal α) (sent : Request) : Prop :=
  ∀ (τ : Type) (server : Server τ) (w : World (State (τ × List Request))),
    ((t.finish (layer server.recorded) terminal w).2.layer.requests = w.layer.requests ∨
      (t.finish (layer server.recorded) terminal w).2.layer.requests = w.layer.requests ++ [sent]) ∧
    ∀ state, Reaches server.recorded t.session w state →
      (t.finish (layer server.recorded) terminal w).2.layer.requests = w.layer.requests ++ [sent]

theorem sends_of_command {terminal : Terminal α} {sent : Request}
    (comes : ∀ default? : Option Nat, ∃ command,
      t.session.command (t.session.timeout? <|> default?) terminal.subject = .ok command ∧
        .ofCommand command terminal.countsRows = sent) : t.Sends terminal sent := by
  intro τ server w
  obtain ⟨command, held, rfl⟩ := comes w.timeout?
  exact ⟨requests_finish_command held server, fun state reaches => requests_finish_reached held reaches⟩

end Statement

end TypedSql
