import TypedSql.Proofs.Connection.Calls
import TypedSql.Session.Transaction
import TypedSql.Statement

namespace TypedSql

variable {σ α : Type}

namespace Statement

/-- Adds clauses in turn up to the first that fails, and nothing where the stages do not admit them. -/
def addAll? (t : Statement) : List Clause → Option (Except Failure Statement × Session)
  | [] => some (.ok t, t.session)
  | clause :: rest =>
    match t.add? clause with
    | none => none
    | some (.error failure, session) => some (.error failure, session)
    | some (.ok longer, _) => longer.addAll? rest

def Terminal.subject : Terminal α → Session.Subject
  | .query _ => .written
  | .execute => .written
  | .callQuery _ => .procedure
  | .callExecute => .procedure

def Terminal.call (command : Command) : Terminal α → Call
  | .query _ => .query command
  | .execute => .execute command
  | .callQuery _ => .query command
  | .callExecute => .execute command

/-- The call that a statement comes to when it is run under a default limit. -/
def call? (t : Statement) (default? : Option Nat) (terminal : Terminal α) : Option Call :=
  match t.session.command (t.session.timeout? <|> default?) terminal.subject with
  | .ok command => some (terminal.call command)
  | .error _ => none

end Statement

/-- One thing done with a session. A statement is written as far as its clauses go, then run or left. -/
inductive Use (α : Type) where
  | begin
  | commit
  | rollback
  | setTimeout (seconds : Nat)
  | write (opening : Opening) (clauses : List Clause) (terminal? : Option (Statement.Terminal α))
  | query (text : String) (parameters : Parameters) (take : Session.Take α)
  | execute (text : String) (parameters : Parameters)

namespace Use

/-- What a use answers: what was run gives a result, everything else none. -/
abbrev Answer (α : Type) := Except Failure (Option (Session.Returned (Statement.Result α)))

def perform (layer : DataLayer σ) (s : Session) : Use α → Action σ (Answer α × Session)
  | .begin => return (← s.begin layer).map (·.map fun () => none) id
  | .commit => return (← s.commit layer).map (·.map fun () => none) id
  | .rollback => return (← s.rollback layer).map (·.map fun () => none) id
  | .setTimeout seconds => return (.ok none, s.setTimeout seconds)
  | .write opening clauses terminal? =>
    match (Statement.start s opening).addAll? clauses with
    | none => return (.ok none, s)
    | some (.error failure, session) => return (.error failure, session)
    | some (.ok t, _) =>
      match terminal?.bind (t.finish? layer) with
      | none => return (.ok none, t.session)
      | some finish => return ((← finish).map some, t.session)
  | .query text parameters take => do
    let answer ← s.fetch layer (.given text parameters) take
    return (answer.map fun r => some ⟨.taken r.value, r.outputs⟩, s)
  | .execute text parameters => do
    let answer ← s.execute layer (.given text parameters)
    return (answer.map fun r => some ⟨.count r.value, r.outputs⟩, s)

/-- The call that a use comes to under a default limit, if it runs a command. -/
def call? (s : Session) (default? : Option Nat) : Use α → Option Call
  | .write opening clauses (some terminal) =>
    match (Statement.start s opening).addAll? clauses with
    | some (.ok t, _) => if terminal.admitted t.stage then t.call? default? terminal else none
    | _ => none
  | .query text parameters _ => some (.query (.statement text parameters (s.timeout? <|> default?)))
  | .execute text parameters => some (.execute (.statement text parameters (s.timeout? <|> default?)))
  | _ => none

def isPlain : Use α → Bool
  | .begin => false
  | .commit => false
  | .rollback => false
  | _ => true

def performAll (layer : DataLayer σ) (s : Session) : List (Use α) → Action σ Session
  | [] => return s
  | use :: rest => do
    let (_, s') ← use.perform layer s
    performAll layer s' rest

theorem performAll_append (layer : DataLayer σ) (s : Session) (uses uses' : List (Use α)) (w : World σ) :
    performAll layer s (uses ++ uses') w =
      performAll layer (performAll layer s uses w).1 uses' (performAll layer s uses w).2 := by
  induction uses generalizing s w with
  | nil => rfl
  | cons use rest ih => exact ih (use.perform layer s w).1.2 (use.perform layer s w).2

/-- A chain whose clauses went in is run and leaves its session as the clauses left it. -/
theorem perform_write {s left : Session} {t : Statement} {opening : Opening} {clauses : List Clause}
    {terminal : Statement.Terminal α} (added : (Statement.start s opening).addAll? clauses = some (.ok t, left))
    (admitted : terminal.admitted t.stage = true) (layer : DataLayer σ) (w : World σ) :
    (write opening clauses (some terminal)).perform layer s w =
      (((t.finish layer terminal w).1.map some, t.session), (t.finish layer terminal w).2) := by
  simp only [perform, added, Option.bind_some, Statement.finish?, if_pos admitted]
  rfl

/-- How a chain goes: what comes of it, and the call that it comes to. -/
inductive Written (layer : DataLayer σ) (s : Session) (opening : Opening) (clauses : List Clause)
    (terminal? : Option (Statement.Terminal α)) (w : World σ) :
    (Answer α × Session) × World σ → Option Call → Prop where
  | unadmitted (added : (Statement.start s opening).addAll? clauses = none) :
      Written layer s opening clauses terminal? w ((.ok none, s), w) none
  | failed {failure : Failure} {left : Session}
      (added : (Statement.start s opening).addAll? clauses = some (.error failure, left)) :
      Written layer s opening clauses terminal? w ((.error failure, left), w) none
  | unrun {t : Statement} {left : Session}
      (added : (Statement.start s opening).addAll? clauses = some (.ok t, left))
      (unasked : ∀ terminal, terminal? = some terminal → terminal.admitted t.stage = false) :
      Written layer s opening clauses terminal? w ((.ok none, t.session), w) none
  | run {t : Statement} {left : Session} {terminal : Statement.Terminal α}
      (added : (Statement.start s opening).addAll? clauses = some (.ok t, left))
      (asked : terminal? = some terminal) (admitted : terminal.admitted t.stage = true) :
      Written layer s opening clauses terminal? w
        (((t.finish layer terminal w).1.map some, t.session), (t.finish layer terminal w).2)
        (t.call? w.timeout? terminal)

theorem written (layer : DataLayer σ) (s : Session) (opening : Opening) (clauses : List Clause)
    (terminal? : Option (Statement.Terminal α)) (w : World σ) :
    Written layer s opening clauses terminal? w ((write opening clauses terminal?).perform layer s w)
      ((write opening clauses terminal?).call? s w.timeout?) := by
  cases added : (Statement.start s opening).addAll? clauses with
  | none =>
    simp only [perform, added]
    cases terminal? <;> simp only [call?, added] <;> exact .unadmitted added
  | some result =>
    obtain ⟨answer, left⟩ := result
    cases answer with
    | error failure =>
      simp only [perform, added]
      cases terminal? <;> simp only [call?, added] <;> exact .failed added
    | ok t =>
      cases terminal? with
      | none =>
        simp only [perform, added]
        exact .unrun added nofun
      | some terminal =>
        cases admitted : terminal.admitted t.stage with
        | true =>
          rw [perform_write added admitted]
          simp only [call?, added, if_pos admitted]
          exact .run added rfl admitted
        | false =>
          have refused : ¬terminal.admitted t.stage = true := by simp [admitted]
          simp only [perform, call?, added, Option.bind_some, Statement.finish?, if_neg refused]
          exact .unrun added fun other same => Option.some.inj same ▸ admitted

end Use

namespace Session

/-- Two sessions that stand alike towards their connections. -/
structure SameConnection (s s' : Session) : Prop where
  target_eq : s'.target = s.target
  connection?_eq : s'.connection? = s.connection?
  inTransaction_eq : s'.inTransaction = s.inTransaction

theorem SameConnection.refl (s : Session) : SameConnection s s := ⟨rfl, rfl, rfl⟩

theorem SameConnection.trans {s s' s'' : Session} (h : SameConnection s s') (h' : SameConnection s' s'') :
    SameConnection s s'' where
  target_eq := h'.target_eq.trans h.target_eq
  connection?_eq := h'.connection?_eq.trans h.connection?_eq
  inTransaction_eq := h'.inTransaction_eq.trans h.inTransaction_eq

theorem SameConnection.dispatch_eq {s s' : Session} (h : SameConnection s s') (layer : DataLayer σ)
    (call : Call) : s'.dispatch layer call = s.dispatch layer call := by
  simp only [dispatch, transaction?, h.target_eq, h.connection?_eq, h.inTransaction_eq]

/-- Two sessions that differ at most in the statement they hold. -/
structure SameSetting (s s' : Session) : Prop extends SameConnection s s' where
  timeout?_eq : s'.timeout? = s.timeout?

theorem SameSetting.refl (s : Session) : SameSetting s s := ⟨.refl s, rfl⟩

theorem SameSetting.trans {s s' s'' : Session} (h : SameSetting s s') (h' : SameSetting s' s'') :
    SameSetting s s'' :=
  ⟨h.toSameConnection.trans h'.toSameConnection, h'.timeout?_eq.trans h.timeout?_eq⟩

theorem sameSetting_bindAll (s : Session) (parameters : Parameters) : SameSetting s (s.bindAll parameters).2 := by
  unfold bindAll
  split <;> exact ⟨⟨rfl, rfl, rfl⟩, rfl⟩

theorem sameSetting_append (s : Session) (fragment : String) : SameSetting s (s.append fragment) :=
  ⟨⟨rfl, rfl, rfl⟩, rfl⟩

theorem sameSetting_addCondition (s : Session) (keyword condition : String) (parameters : Parameters) :
    SameSetting s (s.addCondition keyword condition parameters).2 := by
  have bound := sameSetting_bindAll s parameters
  unfold addCondition
  split
  next h =>
    rw [h] at bound
    exact bound.trans (sameSetting_append _ _)
  next h =>
    rw [h] at bound
    exact bound

end Session

theorem Opening.sameSetting_perform (s : Session) (opening : Opening) :
    Session.SameSetting s (opening.perform s) := by
  cases opening <;> exact ⟨⟨rfl, rfl, rfl⟩, rfl⟩

theorem Clause.sameSetting_perform (s : Session) (clause : Clause) :
    Session.SameSetting s (clause.perform s).2 := by
  cases clause with
  | joinOn condition parameters => exact s.sameSetting_addCondition _ _ _
  | filter condition parameters => exact s.sameSetting_addCondition _ _ _
  | having condition parameters => exact s.sameSetting_addCondition _ _ _
  | insertValues parameters =>
    simp only [perform]
    split
    · exact .refl s
    · exact (s.sameSetting_append _).trans (Session.sameSetting_bindAll _ _)
  | updateSet parameters =>
    simp only [perform]
    split
    · exact .refl s
    · exact (s.sameSetting_append _).trans (Session.sameSetting_bindAll _ _)
  | withFieldsOf payload =>
    simp only [perform]
    split <;> exact ⟨⟨rfl, rfl, rfl⟩, rfl⟩
  | _ => exact ⟨⟨rfl, rfl, rfl⟩, rfl⟩

namespace Statement

/-- What every clause keeps, whatever comes of it, is kept by clauses in turn up to the one that fails. -/
theorem addAll?_keeps {motive : Stage → Session → Prop}
    (step : ∀ {stage next : Stage} {s : Session} {clause : Clause}, stage.next? clause = some next →
      motive stage s → motive next (clause.perform s).2)
    {t : Statement} {clauses : List Clause} {answer : Except Failure Statement} {session : Session}
    (h : motive t.stage t.session) (added : t.addAll? clauses = some (answer, session)) :
    (∃ stage, motive stage session) ∧ ∀ longer, answer = .ok longer → motive longer.stage longer.session := by
  induction clauses generalizing t with
  | nil =>
    cases added
    exact ⟨⟨_, h⟩, fun longer same => Except.ok.inj same ▸ h⟩
  | cons clause rest ih =>
    cases stage : t.stage.next? clause with
    | none => simp [addAll?, add?, stage] at added
    | some next =>
      have after := step stage h
      cases performed : clause.perform t.session with
      | mk outcome left =>
        rw [performed] at after
        cases outcome with
        | error failure =>
          simp only [addAll?, add?, stage, performed, Option.map_some, Except.map, Option.some.injEq,
            Prod.mk.injEq] at added
          obtain ⟨rfl, rfl⟩ := added
          exact ⟨⟨_, after⟩, fun longer same => by cases same⟩
        | ok _ =>
          simp only [addAll?, add?, stage, performed, Option.map_some, Except.map] at added
          exact ih after added

/-- A chain changes nothing but the statement, whether its clauses go in or one of them fails. -/
theorem sameSetting_written {s : Session} {opening : Opening} {clauses : List Clause}
    {answer : Except Failure Statement} {left : Session}
    (h : (start s opening).addAll? clauses = some (answer, left)) :
    Session.SameSetting s left ∧ ∀ longer, answer = .ok longer → Session.SameSetting s longer.session := by
  obtain ⟨⟨_, left⟩, longer⟩ := addAll?_keeps (motive := fun _ other => Session.SameSetting s other)
    (fun _ same => same.trans (Clause.sameSetting_perform _ _)) (opening.sameSetting_perform s) h
  exact ⟨left, longer⟩

theorem sameConnection_written {s left : Session} {t : Statement} {opening : Opening} {clauses : List Clause}
    (h : (start s opening).addAll? clauses = some (.ok t, left)) : Session.SameConnection s t.session :=
  ((sameSetting_written h).2 t rfl).toSameConnection

end Statement

end TypedSql
