import TypedSql.Proofs.Session.Use

namespace TypedSql

variable {σ α : Type} {layer : DataLayer σ} {s : Session} {w : World σ}

namespace Session

theorem execute_world (layer : DataLayer σ) (s : Session) (subject : Subject) (w : World σ) :
    (s.execute layer subject w).2 =
      match s.command (s.timeout? <|> w.timeout?) subject with
      | .ok command => (s.dispatch layer (.execute command) w).2
      | .error _ => w := by
  have timed : s.effectiveTimeout w = (s.timeout? <|> w.timeout?) := rfl
  rw [execute, Action.bind_apply, Action.get_apply, timed]
  cases s.command (s.timeout? <|> w.timeout?) subject <;> rfl

theorem queryRows_world (layer : DataLayer σ) (s : Session) (subject : Subject) (w : World σ) :
    (s.queryRows layer subject w).2 =
      match s.command (s.timeout? <|> w.timeout?) subject with
      | .ok command => (s.dispatch layer (.query command) w).2
      | .error _ => w := by
  have timed : s.effectiveTimeout w = (s.timeout? <|> w.timeout?) := rfl
  rw [queryRows, Action.bind_apply, Action.get_apply, timed]
  cases s.command (s.timeout? <|> w.timeout?) subject <;> rfl

theorem fetch_world (layer : DataLayer σ) (s : Session) (subject : Subject) (take : Take α) (w : World σ) :
    (s.fetch layer subject take w).2 = (s.queryRows layer subject w).2 := by
  rw [fetch, Action.bind_apply]
  cases (s.queryRows layer subject w).1 <;> rfl

theorem dispatch_inside {handle : Handle} (held : s.connection? = some handle)
    (active : s.inTransaction = true) (layer : DataLayer σ) (call : Call) :
    s.dispatch layer call = layer.send handle call := by
  simp only [dispatch, transaction?, held, active, Option.filter, if_true]

theorem dispatch_idle (idle : s.connection? = none) (layer : DataLayer σ) (call : Call) :
    s.dispatch layer call = layer.sendAlone s.target call := by
  simp only [dispatch, transaction?, idle, Option.filter]

end Session

theorem Statement.Terminal.kind_call (terminal : Terminal α) (command : Command) :
    (terminal.call command).kind = .command := by
  cases terminal <;> rfl

theorem Statement.call?_of_command {t : Statement} {terminal : Terminal α} {default? : Option Nat} {command : Command}
    (comes : t.session.command (t.session.timeout? <|> default?) terminal.subject = .ok command) :
    t.call? default? terminal = some (terminal.call command) := by
  simp only [call?, comes]

theorem Statement.exists_of_call? {t : Statement} {terminal : Terminal α} {default? : Option Nat} {call : Call}
    (h : t.call? default? terminal = some call) :
    ∃ command, t.session.command (t.session.timeout? <|> default?) terminal.subject = .ok command ∧
      call = terminal.call command := by
  unfold call? at h
  split at h
  next command comes => exact ⟨command, comes, (Option.some.inj h).symm⟩
  next => cases h

theorem Statement.finish_world (layer : DataLayer σ) (t : Statement) (terminal : Terminal α) (w : World σ) :
    (t.finish layer terminal w).2 =
      match t.call? w.timeout? terminal with
      | some call => (t.session.dispatch layer call w).2
      | none => w := by
  have same : (t.finish layer terminal w).2 =
      match t.session.command (t.session.timeout? <|> w.timeout?) terminal.subject with
      | .ok command => (t.session.dispatch layer (terminal.call command) w).2
      | .error _ => w := by
    cases terminal with
    | query take =>
      exact (t.session.fetch_world layer .written take w).trans (t.session.queryRows_world layer .written w)
    | execute => exact t.session.execute_world layer .written w
    | callQuery take =>
      exact (t.session.fetch_world layer .procedure take w).trans
        (t.session.queryRows_world layer .procedure w)
    | callExecute => exact t.session.execute_world layer .procedure w
  rw [same]
  unfold call?
  cases t.session.command (t.session.timeout? <|> w.timeout?) terminal.subject <;> rfl

theorem Statement.finish_world_command {t : Statement} {terminal : Terminal α} {command : Command}
    (comes : t.session.command (t.session.timeout? <|> w.timeout?) terminal.subject = .ok command)
    (layer : DataLayer σ) :
    (t.finish layer terminal w).2 = (t.session.dispatch layer (terminal.call command) w).2 := by
  rw [t.finish_world layer terminal w, call?_of_command comes]

namespace Use

variable {use : Use α}

/-- A use that leaves the transaction alone leaves the session standing as it stood, and sends what the
call that it comes to sends. -/
theorem perform_of_isPlain (h : use.isPlain = true) (layer : DataLayer σ) (s : Session) (w : World σ) :
    Session.SameConnection s (use.perform layer s w).1.2 ∧
      (use.perform layer s w).2 =
        match use.call? s w.timeout? with
        | some call => (s.dispatch layer call w).2
        | none => w := by
  cases use with
  | begin => simp [isPlain] at h
  | commit => simp [isPlain] at h
  | rollback => simp [isPlain] at h
  | setTimeout seconds => exact ⟨⟨rfl, rfl, rfl⟩, rfl⟩
  | query text parameters take =>
    refine ⟨.refl s, ?_⟩
    exact (s.fetch_world layer (.given text parameters) take w).trans
      (s.queryRows_world layer (.given text parameters) w)
  | execute text parameters => exact ⟨.refl s, s.execute_world layer (.given text parameters) w⟩
  | write opening clauses terminal? =>
    have goes := written layer s opening clauses terminal? w
    generalize (write opening clauses terminal?).perform layer s w = r at goes ⊢
    generalize (write opening clauses terminal?).call? s w.timeout? = call? at goes ⊢
    cases goes with
    | unadmitted added => exact ⟨.refl s, rfl⟩
    | failed added => exact ⟨(Statement.sameSetting_written added).1.toSameConnection, rfl⟩
    | unrun added unasked => exact ⟨Statement.sameConnection_written added, rfl⟩
    | @run t left terminal added asked admitted =>
      have same := Statement.sameConnection_written added
      refine ⟨same, ?_⟩
      rw [t.finish_world layer terminal w]
      cases t.call? w.timeout? terminal with
      | none => rfl
      | some call => simp only [same.dispatch_eq]

theorem kind_of_call? {default? : Option Nat} {call : Call} (h : use.call? s default? = some call) :
    call.kind = .command := by
  cases use with
  | begin => simp [call?] at h
  | commit => simp [call?] at h
  | rollback => simp [call?] at h
  | setTimeout seconds => simp [call?] at h
  | query text parameters take =>
    rw [← Option.some.inj h]
    rfl
  | execute text parameters =>
    rw [← Option.some.inj h]
    rfl
  | write opening clauses terminal? =>
    cases terminal? with
    | none => simp [call?] at h
    | some terminal =>
      simp only [call?] at h
      split at h
      next =>
        split at h
        next =>
          obtain ⟨command, _, rfl⟩ := Statement.exists_of_call? h
          exact terminal.kind_call command
        next => cases h
      next => cases h

theorem isPlain_of_call? {default? : Option Nat} {call : Call} (h : use.call? s default? = some call) :
    use.isPlain = true := by
  cases use <;> first | rfl | simp [call?] at h

end Use

end TypedSql
