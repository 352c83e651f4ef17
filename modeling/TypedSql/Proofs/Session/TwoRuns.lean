import TypedSql.Proofs.Session.Asked
import TypedSql.Proofs.Statement.Values

namespace TypedSql

variable {σ σ' α : Type} {layer : DataLayer σ} {layer' : DataLayer σ'} {s s' : Session} {w : World σ}
  {w' : World σ'} {command command' : Command} {call call' : Call} {use use' : Use α}
  {uses uses' : List (Use α)}

/-- Two commands that differ at most in the values of their parameters and in their limits of time. -/
structure Command.SameWording (command command' : Command) : Prop where
  text_eq : command'.text = command.text
  kind_eq : command'.kind = command.kind
  names_eq : command'.parameters.names = command.parameters.names
  outputs_eq : command'.outputs = command.outputs

/-- Two calls of one kind, with commands of the same wording where they have one. -/
inductive Call.SameWording : Call → Call → Prop where
  | same (call : Call) : SameWording call call
  | execute {command command' : Command} (h : command.SameWording command') :
      SameWording (.execute command) (.execute command')
  | query {command command' : Command} (h : command.SameWording command') :
      SameWording (.query command) (.query command')

theorem Session.SameWording.of_command {subject : Session.Subject} {timeout timeout' : Option Nat}
    (h : s.SameWording s') (comes : s.command timeout subject = .ok command)
    (comes' : s'.command timeout' subject = .ok command') : command.SameWording command' := by
  cases subject with
  | written =>
    cases comes
    cases comes'
    exact ⟨congrArg (·.getD "") h.query?_eq, rfl, h.names_eq, rfl⟩
  | given text parameters =>
    cases comes
    cases comes'
    exact ⟨rfl, rfl, rfl, rfl⟩
  | procedure =>
    have same := h.wording_eq
    cases held : s.procedure? with
    | none => simp [Session.command, held] at comes
    | some call =>
      cases held' : s'.procedure? with
      | none => simp [Session.command, held'] at comes'
      | some call' =>
        simp only [Session.command, held, Except.ok.injEq] at comes
        simp only [Session.command, held', Except.ok.injEq] at comes'
        subst comes comes'
        rw [held, held', Option.map_some, Option.map_some, Option.some.injEq] at same
        simp only [ProcedureCall.wording, Prod.mk.injEq] at same
        exact ⟨same.1, rfl, same.2.1, same.2.2⟩

/-- Two uses that differ at most in the values that they give. -/
inductive Use.Alike : Use α → Use α → Prop where
  | same (use : Use α) : Alike use use
  | write (opening : Opening) {clauses clauses' : List Clause}
      (clauses_alike : List.Forall₂ Clause.Alike clauses clauses') (terminal? : Option (Statement.Terminal α)) :
      Alike (.write opening clauses terminal?) (.write opening clauses' terminal?)
  | query (text : String) {p p' : Parameters} (names : p.names = p'.names) (take : Session.Take α) :
      Alike (.query text p take) (.query text p' take)
  | execute (text : String) {p p' : Parameters} (names : p.names = p'.names) :
      Alike (.execute text p) (.execute text p')

theorem Statement.Terminal.sameWording_call (h : command.SameWording command') (terminal : Terminal α) :
    (terminal.call command).SameWording (terminal.call command') := by
  cases terminal with
  | query take => exact .query h
  | execute => exact .execute h
  | callQuery take => exact .query h
  | callExecute => exact .execute h

/-- Statements of one wording come to calls of one wording. -/
theorem Statement.sameWording_call? {t t' : Statement} {opening : Opening} {terminal : Terminal α}
    (stands : t.Stands opening) (stands' : t'.Stands opening) (stage : t'.stage = t.stage)
    (h : t.session.SameWording t'.session) (admitted : terminal.admitted t.stage = true)
    (default? default?' : Option Nat) :
    List.Forall₂ Call.SameWording (t.call? default? terminal).toList (t'.call? default?' terminal).toList := by
  obtain ⟨command, comes, _⟩ := stands.subject admitted (t.session.timeout? <|> default?)
  obtain ⟨command', comes', _⟩ := stands'.subject (stage ▸ admitted) (t'.session.timeout? <|> default?')
  rw [call?_of_command comes, call?_of_command comes']
  exact .cons (terminal.sameWording_call (h.of_command comes comes')) .nil

namespace Use

theorem ok_of_added {opening : Opening} {clauses : List Clause} {terminal? : Option (Statement.Terminal α)}
    {answer : Except Failure Statement} {left : Session}
    (ok : ((write opening clauses terminal?).perform layer s w).1.1.isOk = true)
    (added : (Statement.start s opening).addAll? clauses = some (answer, left)) : ∃ t, answer = .ok t := by
  cases answer with
  | ok t => exact ⟨t, rfl⟩
  | error failure =>
    simp only [perform, added] at ok
    cases ok

/-- Of two alike chains that do not fail, the stages admit both or none. -/
theorem added_of_alike {opening : Opening} {clauses clauses' : List Clause}
    {terminal? : Option (Statement.Terminal α)} (alike : List.Forall₂ Clause.Alike clauses clauses')
    (ok : ((write opening clauses terminal?).perform layer s w).1.1.isOk = true)
    (ok' : ((write opening clauses' terminal?).perform layer' s' w').1.1.isOk = true) :
    ((Statement.start s opening).addAll? clauses = none ∧ (Statement.start s' opening).addAll? clauses' = none) ∨
      ∃ t left t' left', (Statement.start s opening).addAll? clauses = some (.ok t, left) ∧
        (Statement.start s' opening).addAll? clauses' = some (.ok t', left') := by
  have stages := Stage.after?_of_alike alike opening.stage
  cases added : (Statement.start s opening).addAll? clauses with
  | none =>
    refine Or.inl ⟨rfl, ?_⟩
    cases added' : (Statement.start s' opening).addAll? clauses' with
    | none => rfl
    | some written' =>
      obtain ⟨answer', left'⟩ := written'
      obtain ⟨t', rfl⟩ := ok_of_added ok' added'
      have goes := Statement.isSome_addAll? (t := Statement.start s opening)
        (stages.trans (Statement.after?_addAll? added'))
      rw [added] at goes
      cases goes
  | some written =>
    obtain ⟨answer, left⟩ := written
    obtain ⟨t, rfl⟩ := ok_of_added ok added
    have goes := Statement.isSome_addAll? (t := Statement.start s' opening)
      (stages.symm.trans (Statement.after?_addAll? added))
    obtain ⟨⟨answer', left'⟩, added'⟩ := Option.isSome_iff_exists.mp goes
    obtain ⟨t', rfl⟩ := ok_of_added ok' added'
    exact Or.inr ⟨t, left, t', left', rfl, added'⟩

theorem Alike.isWrite_eq (alike : use.Alike use') : use.isWrite = use'.isWrite := by
  cases alike <;> rfl

theorem Alike.exists_write (alike : use.Alike use') (write : use.isWrite = true) :
    ∃ opening clauses clauses' terminal?, use = .write opening clauses terminal? ∧
      use' = .write opening clauses' terminal? ∧ List.Forall₂ Clause.Alike clauses clauses' := by
  cases alike with
  | same use =>
    cases use with
    | write opening clauses terminal? =>
      exact ⟨opening, clauses, clauses, terminal?, rfl, rfl, List.forall₂_same.mpr fun c _ => .same c⟩
    | _ => cases write
  | @write opening clauses clauses' clauses_alike terminal? =>
    exact ⟨opening, clauses, clauses', terminal?, rfl, rfl, clauses_alike⟩
  | query text names take => cases write
  | execute text names => cases write

theorem Alike.leavesOpen_eq (alike : use.Alike use') (before : Bool) :
    use.leavesOpen before = use'.leavesOpen before := by
  cases alike <;> rfl

/-- A chain that succeeds leaves a statement of the same wording as an alike chain that succeeds. -/
theorem sameWording_write {opening : Opening} {clauses clauses' : List Clause}
    {terminal? : Option (Statement.Terminal α)} (h : s.SameWording s')
    (alike : List.Forall₂ Clause.Alike clauses clauses')
    (ok : ((write opening clauses terminal?).perform layer s w).1.1.isOk = true)
    (ok' : ((write opening clauses' terminal?).perform layer' s' w').1.1.isOk = true) :
    ((write opening clauses terminal?).perform layer s w).1.2.SameWording
      ((write opening clauses' terminal?).perform layer' s' w').1.2 := by
  rcases added_of_alike alike ok ok' with ⟨added, added'⟩ | ⟨t, left, t', left', added, added'⟩
  · simp only [perform, added, added']
    exact h
  · rw [session_write layer w added, session_write layer' w' added']
    exact (Statement.sameWording_written alike added added').2

theorem sameWording_call?_write {opening : Opening} {clauses clauses' : List Clause}
    {terminal? : Option (Statement.Terminal α)} (alike : List.Forall₂ Clause.Alike clauses clauses')
    (ok : ((write opening clauses terminal?).perform layer s w).1.1.isOk = true)
    (ok' : ((write opening clauses' terminal?).perform layer' s' w').1.1.isOk = true)
    (default? default?' : Option Nat) :
    List.Forall₂ Call.SameWording ((write opening clauses terminal?).call? s default?).toList
      ((write opening clauses' terminal?).call? s' default?').toList := by
  cases terminal? with
  | none => exact .nil
  | some terminal =>
    rcases added_of_alike alike ok ok' with ⟨added, added'⟩ | ⟨t, left, t', left', added, added'⟩
    · simp only [call?, added, added']
      exact .nil
    · obtain ⟨stage, wording⟩ := Statement.sameWording_written alike added added'
      simp only [call?, added, added', stage]
      split
      next admitted =>
        exact Statement.sameWording_call? (Statement.stands_written added) (Statement.stands_written added')
          stage wording admitted default? default?'
      next => exact .nil

theorem sameWording_perform (alike : use.Alike use') (settled : s.Settled) (settled' : s'.Settled)
    (h : s.SameWording s') (ok : (use.perform layer s w).1.1.isOk = true)
    (ok' : (use'.perform layer' s' w').1.1.isOk = true) :
    (use.perform layer s w).1.2.SameWording (use'.perform layer' s' w').1.2 := by
  cases apart : use.isWrite with
  | false =>
    have kept := (sameStatement_perform settled apart layer w).sameWording
    have kept' := (sameStatement_perform settled' (alike.isWrite_eq.symm.trans apart) layer' w').sameWording
    exact (kept.symm.trans h).trans kept'
  | true =>
    obtain ⟨opening, clauses, clauses', terminal?, rfl, rfl, chains⟩ := alike.exists_write apart
    exact sameWording_write h chains ok ok'

theorem sameWording_asks? (alike : use.Alike use')
    (active : s'.inTransaction = s.inTransaction) (ok : (use.perform layer s w).1.1.isOk = true)
    (ok' : (use'.perform layer' s' w').1.1.isOk = true) (default? default?' : Option Nat) :
    List.Forall₂ Call.SameWording (use.asks? s default?).toList (use'.asks? s' default?').toList := by
  have asksSame : ∀ call? : Option Call, List.Forall₂ Call.SameWording call?.toList call?.toList :=
    fun call? => List.forall₂_same.mpr fun call _ => .same call
  cases apart : use.isWrite with
  | true =>
    obtain ⟨opening, clauses, clauses', terminal?, rfl, rfl, chains⟩ := alike.exists_write apart
    exact sameWording_call?_write chains ok ok' default? default?'
  | false =>
    cases alike with
    | write opening clauses_alike terminal? => cases apart
    | query text names take => exact .cons (.query ⟨rfl, rfl, names.symm, rfl⟩) .nil
    | execute text names => exact .cons (.execute ⟨rfl, rfl, names.symm, rfl⟩) .nil
    | same use =>
      -- The limits of time may differ, so that a query is not asked twice in just the same way.
      cases use with
      | write opening clauses terminal? => cases apart
      | query text p take => exact .cons (.query ⟨rfl, rfl, rfl, rfl⟩) .nil
      | execute text p => exact .cons (.execute ⟨rfl, rfl, rfl, rfl⟩) .nil
      | setTimeout seconds => exact .nil
      | begin =>
        simp only [asks?, active]
        exact asksSame _
      | commit =>
        simp only [asks?, active]
        exact asksSame _
      | rollback =>
        simp only [asks?, active]
        exact asksSame _

/-- Two runs of alike uses that all succeed ask calls of the same wording, one after the other, and leave
statements of the same wording. -/
theorem sameWording_performAll (alike : List.Forall₂ Use.Alike uses uses') (settled : s.Settled)
    (settled' : s'.Settled) (h : s.SameWording s') (active : s'.inTransaction = s.inTransaction)
    (ok : AllSucceed layer s uses w) (ok' : AllSucceed layer' s' uses' w') :
    (performAll layer s uses w).1.SameWording (performAll layer' s' uses' w').1 ∧
      ∃ events events' calls calls',
        (performAll layer s uses w).2.trace = w.trace ++ events ∧ Asks events calls ∧
        (performAll layer' s' uses' w').2.trace = w'.trace ++ events' ∧ Asks events' calls' ∧
        List.Forall₂ Call.SameWording calls calls' := by
  -- The runs keep level in what the sessions hold and in whether a transaction is open: that decides what
  -- the next use asks.
  induction alike generalizing s s' w w' with
  | nil =>
    exact ⟨h, [], [], [], [], (List.append_nil _).symm, .nil, (List.append_nil _).symm, .nil, .nil⟩
  | @cons use use' rest rest' first _ ih =>
    obtain ⟨here, later⟩ := ok
    obtain ⟨here', later'⟩ := ok'
    obtain ⟨_, moved⟩ := perform_moved settled layer use w
    obtain ⟨_, moved'⟩ := perform_moved settled' layer' use' w'
    obtain ⟨⟨events, trace, asks⟩, open_eq⟩ := asked_perform settled here
    obtain ⟨⟨events', trace', asks'⟩, open_eq'⟩ := asked_perform settled' here'
    have active' : (use'.perform layer' s' w').1.2.inTransaction = (use.perform layer s w).1.2.inTransaction := by
      rw [open_eq, open_eq', active, first.leavesOpen_eq]
    obtain ⟨wording, own, own', calls, calls', run, asked, run', asked', same⟩ :=
      ih moved.settled moved'.settled (sameWording_perform first settled settled' h here here') active' later later'
    refine ⟨wording, events ++ own, events' ++ own', _ ++ calls, _ ++ calls', ?_, asks.append asked, ?_,
      asks'.append asked', ?_⟩
    · exact run.trans (by rw [trace, List.append_assoc])
    · exact run'.trans (by rw [trace', List.append_assoc])
    · exact List.rel_append (sameWording_asks? first active here here' _ _) same

theorem AllSucceed.take (ok : AllSucceed layer s uses w) (n : Nat) : AllSucceed layer s (uses.take n) w := by
  induction uses generalizing s w n with
  | nil =>
    rw [List.take_nil]
    exact ok
  | cons use rest ih =>
    cases n with
    | zero => trivial
    | succ n => exact ⟨ok.1, ih ok.2 n⟩

end Use

end TypedSql
