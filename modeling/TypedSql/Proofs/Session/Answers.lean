import TypedSql.Proofs.Session.Dispatch
import TypedSql.Proofs.Traversal

namespace TypedSql

variable {σ α β γ δ : Type}

theorem isOk_map (answer : Except Failure β) (f : β → γ) : (answer.map f).isOk = answer.isOk := by
  cases answer <;> rfl

/-- A result that is read off an answer: a failure stays as it is, and the only other one is that a row
does not fit what it is mapped to. -/
inductive ReadOff : Except Failure β → Except Failure γ → Prop where
  | failed (failure : Failure) : ReadOff (.error failure) (.error failure)
  | unfit (outcome : β) (message : String) : ReadOff (.ok outcome) (.error (.mapping message))
  | read (outcome : β) (value : γ) : ReadOff (.ok outcome) (.ok value)

namespace ReadOff

variable {answer : Except Failure β} {result : Except Failure γ} {failure : Failure}

theorem map (h : ReadOff answer result) (f : γ → δ) : ReadOff answer (result.map f) := by
  cases h with
  | failed failure => exact .failed failure
  | unfit outcome message => exact .unfit outcome message
  | read outcome value => exact .read outcome (f value)

theorem of_map (answer : Except Failure β) (f : β → γ) : ReadOff answer (answer.map f) := by
  cases answer with
  | error failure => exact .failed failure
  | ok outcome => exact .read outcome (f outcome)

theorem of_ok {outcome : β} (h : ReadOff (.ok outcome) result) (other : δ) : ReadOff (.ok other) result := by
  cases h with
  | unfit _ message => exact .unfit other message
  | read _ value => exact .read other value

theorem eq_error (h : ReadOff answer result) (failed : answer = .error failure) : result = .error failure := by
  subst failed
  cases h
  rfl

theorem of_eq_error (h : ReadOff answer result) (failed : result = .error failure) :
    answer = .error failure ∨ ∃ message, failure = .mapping message := by
  subst failed
  cases h with
  | failed => exact Or.inl rfl
  | unfit outcome message => exact Or.inr ⟨message, rfl⟩

end ReadOff

theorem Row.readOff_deserialize (decode : Json → Except Mapping.Flaw α) (row : Row) :
    ReadOff (.ok row : Except Failure Row) (row.deserialize decode) := by
  unfold deserialize
  split
  next value _ => exact .read row value
  next flaw _ => exact .unfit row flaw.message

theorem ResultSet.readOff_deserialize (decode : Json → Except Mapping.Flaw α) (set : ResultSet) :
    ReadOff (.ok set : Except Failure ResultSet) (set.deserialize decode) := by
  cases mapped : set.deserialize decode with
  | ok values => exact .read set values
  | error failure =>
    obtain ⟨row, _, unfit⟩ := exists_of_mapM_eq_error mapped
    rcases (row.readOff_deserialize decode).of_eq_error unfit with impossible | ⟨message, rfl⟩
    · cases impossible
    · exact .unfit set message

namespace Session

variable {s : Session} {w : World σ} {subject : Subject} {command : Command}

theorem Take.readOff_apply (take : Take α) (set : ResultSet) :
    ReadOff (.ok set : Except Failure ResultSet) (take.apply set) := by
  cases take with
  | rows => exact .read set _
  | firstRow => exact .read set _
  | mapped decode => exact (set.readOff_deserialize decode).map _
  | firstMapped decode =>
    simp only [apply]
    split
    next => exact .read set _
    next row _ => exact ((row.readOff_deserialize decode).of_ok set).map _

theorem execute_answer (s : Session)
    (comes : s.command (s.timeout? <|> w.timeout?) subject = .ok command) (layer : DataLayer σ) :
    (s.execute layer subject w).1 = (s.dispatch layer (.execute command) w).1.map fun outcome =>
      ⟨outcome.rowsAffected, readOutputs (s.declared subject) outcome.outputs⟩ := by
  have timed : s.effectiveTimeout w = (s.timeout? <|> w.timeout?) := rfl
  rw [execute, Action.bind_apply, Action.get_apply, timed, comes]
  rfl

theorem queryRows_answer (s : Session)
    (comes : s.command (s.timeout? <|> w.timeout?) subject = .ok command) (layer : DataLayer σ) :
    (s.queryRows layer subject w).1 = (s.dispatch layer (.query command) w).1.map fun outcome =>
      ⟨outcome.resultSet, readOutputs (s.declared subject) outcome.outputs⟩ := by
  have timed : s.effectiveTimeout w = (s.timeout? <|> w.timeout?) := rfl
  rw [queryRows, Action.bind_apply, Action.get_apply, timed, comes]
  rfl

/-- What is fetched is taken from the answer to the command. -/
theorem fetch_answer (s : Session)
    (comes : s.command (s.timeout? <|> w.timeout?) subject = .ok command) (layer : DataLayer σ) (take : Take α) :
    (s.fetch layer subject take w).1 = (s.dispatch layer (.query command) w).1.bind fun outcome =>
      (take.apply outcome.resultSet).map fun taken =>
        ⟨taken, readOutputs (s.declared subject) outcome.outputs⟩ := by
  rw [fetch, Action.bind_apply, s.queryRows_answer comes layer]
  cases (s.dispatch layer (.query command) w).1 <;> rfl

theorem readOff_execute (s : Session)
    (comes : s.command (s.timeout? <|> w.timeout?) subject = .ok command) (layer : DataLayer σ) :
    ReadOff (s.dispatch layer (.execute command) w).1 (s.execute layer subject w).1 := by
  rw [s.execute_answer comes layer]
  exact .of_map _ _

theorem readOff_fetch (s : Session)
    (comes : s.command (s.timeout? <|> w.timeout?) subject = .ok command) (layer : DataLayer σ)
    (take : Take α) : ReadOff (s.dispatch layer (.query command) w).1 (s.fetch layer subject take w).1 := by
  rw [s.fetch_answer comes layer take]
  cases (s.dispatch layer (.query command) w).1 with
  | error failure => exact .failed failure
  | ok outcome => exact ((take.readOff_apply outcome.resultSet).of_ok outcome).map _

end Session

namespace Statement

variable {t : Statement} {w : World σ} {command : Command}

/-- A call that counts rows returns what the answer to its command says. -/
theorem callExecute_answer
    (comes : t.session.command (t.session.timeout? <|> w.timeout?) .procedure = .ok command)
    (layer : DataLayer σ) :
    (t.finish layer (.callExecute : Terminal α) w).1 =
      (t.session.dispatch layer (.execute command) w).1.map fun outcome =>
        ⟨.count outcome.rowsAffected, readOutputs (t.session.declared .procedure) outcome.outputs⟩ := by
  have ran : (t.finish layer (.callExecute : Terminal α) w).1 =
      (t.session.execute layer .procedure w).1.map fun r => ⟨.count r.value, r.outputs⟩ := rfl
  rw [ran, t.session.execute_answer comes]
  cases (t.session.dispatch layer (.execute command) w).1 <;> rfl

/-- A call that asks for rows takes them from the answer to its command. -/
theorem callQuery_answer
    (comes : t.session.command (t.session.timeout? <|> w.timeout?) .procedure = .ok command)
    (layer : DataLayer σ) (take : Session.Take α) :
    (t.finish layer (.callQuery take) w).1 =
      (t.session.dispatch layer (.query command) w).1.bind fun outcome =>
        (take.apply outcome.resultSet).map fun taken =>
          ⟨.taken taken, readOutputs (t.session.declared .procedure) outcome.outputs⟩ := by
  have ran : (t.finish layer (.callQuery take) w).1 =
      (t.session.fetch layer .procedure take w).1.map fun r => ⟨.taken r.value, r.outputs⟩ := rfl
  rw [ran, t.session.fetch_answer comes]
  cases (t.session.dispatch layer (.query command) w).1 with
  | error failure => rfl
  | ok outcome => exact map_map _ _ _

end Statement

theorem Statement.readOff_finish {t : Statement} {terminal : Terminal α} {w : World σ} {call : Call}
    (comes : t.call? w.timeout? terminal = some call) (layer : DataLayer σ) :
    ReadOff (t.session.dispatch layer call w).1 (t.finish layer terminal w).1 := by
  obtain ⟨command, ok, rfl⟩ := exists_of_call? comes
  cases terminal with
  | query take => exact (t.session.readOff_fetch ok layer take).map _
  | execute => exact (t.session.readOff_execute ok layer).map _
  | callQuery take => exact (t.session.readOff_fetch ok layer take).map _
  | callExecute => exact (t.session.readOff_execute ok layer).map _

/-- What a use answers is read off the answer to the call that it comes to. -/
theorem Use.readOff_perform {s : Session} {use : Use α} {w : World σ} {call : Call}
    (comes : use.call? s w.timeout? = some call) (layer : DataLayer σ) :
    ReadOff (s.dispatch layer call w).1 (use.perform layer s w).1.1 := by
  cases use with
  | query text parameters take =>
    cases comes
    have given : s.command (s.timeout? <|> w.timeout?) (.given text parameters) =
        .ok (.statement text parameters (s.timeout? <|> w.timeout?)) := rfl
    exact (s.readOff_fetch given layer take).map _
  | execute text parameters =>
    cases comes
    have given : s.command (s.timeout? <|> w.timeout?) (.given text parameters) =
        .ok (.statement text parameters (s.timeout? <|> w.timeout?)) := rfl
    exact (s.readOff_execute given layer).map _
  | write opening clauses terminal? =>
    have goes := written layer s opening clauses terminal? w
    generalize (write opening clauses terminal?).perform layer s w = r at goes ⊢
    rw [comes] at goes
    generalize called : some call = call? at goes
    cases goes with
    | run added asked admitted =>
      rw [← (Statement.sameConnection_written added).dispatch_eq layer call]
      exact (Statement.readOff_finish called.symm layer).map _
    | _ => cases called
  | begin => cases comes
  | commit => cases comes
  | rollback => cases comes
  | setTimeout seconds => cases comes

end TypedSql
