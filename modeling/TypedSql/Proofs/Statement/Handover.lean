import TypedSql.Proofs.Session.Dispatch
import TypedSql.Proofs.Statement.Bound
import TypedSql.Recorder

namespace TypedSql

variable {σ α : Type} {layer : DataLayer σ} {handle : Handle} {call : Call} {command : Command}
  {events : List Event} {s s' left : Session} {t : Statement} {opening : Opening} {clauses : List Clause}

def Call.command? : Call → Option Command
  | .execute command => some command
  | .query command => some command
  | _ => none

theorem Statement.Terminal.command?_call (terminal : Terminal α) (command : Command) :
    (terminal.call command).command? = some command := by
  cases terminal <;> rfl

/-- The commands that were handed to the data layer. -/
def handedOver (events : List Event) : List Command := events.filterMap (·.call.command?)

theorem handedOver_append (events events' : List Event) :
    handedOver (events ++ events') = handedOver events ++ handedOver events' := List.filterMap_append

theorem handedOver_singleton (comes : call.command? = some command) (succeeded : Bool) :
    handedOver [⟨handle, call, succeeded⟩] = [command] := by
  simp only [handedOver, List.filterMap_cons, comes, List.filterMap_nil]

/-- A connection was refused or could not be opened. -/
def Unreached (events : List Event) : Prop :=
  ∃ e ∈ events, (e.call.kind = .connect ∨ e.call.kind = .openUp) ∧ e.succeeded = false

theorem Attempt.handedOver {state state' : σ} {answer : Except Failure call.Answer}
    (h : Attempt layer handle call state events answer state') (comes : call.command? = some command) :
    handedOver events = [command] ∨ handedOver events = [] ∧ Unreached events := by
  cases h with
  | unopened found refused => exact Or.inr ⟨rfl, _, List.mem_cons_self, Or.inr rfl, rfl⟩
  | opened found granted made => exact Or.inl (handedOver_singleton comes _)
  | found found made => exact Or.inl (handedOver_singleton comes _)

theorem Alone.handedOver {target : String} {state state' : σ} {answer : Except Failure call.Answer}
    (h : Alone layer target call handle state events answer state') (comes : call.command? = some command) :
    handedOver events = [command] ∨ handedOver events = [] ∧ Unreached events := by
  cases h with
  | refused asked => exact Or.inr ⟨rfl, _, List.mem_cons_self, Or.inl rfl, rfl⟩
  | @connected _ _ _ own _ closed asked attempt released =>
    have around : TypedSql.handedOver (⟨handle, .connect target, true⟩ :: own ++ [⟨handle, .close, closed.isOk⟩]) =
        TypedSql.handedOver own := by
      rw [handedOver_append]
      exact List.append_nil _
    rw [around]
    refine (attempt.handedOver comes).imp_right fun ⟨nothing, e, mem, failed⟩ => ⟨nothing, e, ?_, failed⟩
    exact List.mem_append_left _ (List.mem_cons_of_mem _ mem)

/-- A command is handed over once, unless the connection for it is not to be had. -/
theorem Session.dispatch_handsOver (layer : DataLayer σ) (s : Session) (comes : call.command? = some command)
    (w : World σ) :
    ∃ events, (s.dispatch layer call w).2.trace = w.trace ++ events ∧
      (handedOver events = [command] ∨ handedOver events = [] ∧ Unreached events) := by
  unfold dispatch
  cases s.transaction? with
  | some handle =>
    simp only [layer.send_apply handle call w rfl, World.after_trace]
    exact ⟨_, rfl, Or.inl (handedOver_singleton comes _)⟩
  | none =>
    obtain ⟨events, answer, state, alone, run⟩ := layer.sendAlone_spec s.target call w
    simp only [run, World.after_trace]
    exact ⟨events, rfl, alone.handedOver comes⟩

theorem Statement.finish_handsOver {terminal : Terminal α} {default? : Option Nat}
    (comes : t.session.command (t.session.timeout? <|> default?) terminal.subject = .ok command)
    (layer : DataLayer σ) (w : World σ) (same : w.timeout? = default?) :
    ∃ events, (t.finish layer terminal w).2.trace = w.trace ++ events ∧
      (handedOver events = [command] ∨ handedOver events = [] ∧ Unreached events) := by
  subst same
  rw [finish_world_command comes layer]
  exact t.session.dispatch_handsOver layer (terminal.command?_call command) w

namespace Session

/-- Two sessions hold the same statement; in everything else they may differ. -/
structure SameStatement (s s' : Session) : Prop where
  query?_eq : s'.query? = s.query?
  parameters_eq : s'.parameters = s.parameters
  procedure?_eq : s'.procedure? = s.procedure?

theorem SameStatement.symm (h : SameStatement s s') : SameStatement s' s :=
  ⟨h.query?_eq.symm, h.parameters_eq.symm, h.procedure?_eq.symm⟩

theorem SameStatement.trans {s'' : Session} (h : SameStatement s s') (h' : SameStatement s' s'') :
    SameStatement s s'' :=
  ⟨h'.query?_eq.trans h.query?_eq, h'.parameters_eq.trans h.parameters_eq, h'.procedure?_eq.trans h.procedure?_eq⟩

theorem SameStatement.append (h : SameStatement s s') (fragment : String) :
    SameStatement (s.append fragment) (s'.append fragment) where
  query?_eq := by simp only [Session.append, query, h.query?_eq]
  parameters_eq := h.parameters_eq
  procedure?_eq := h.procedure?_eq

theorem SameStatement.bindAll (h : SameStatement s s') (parameters : Parameters) :
    (s'.bindAll parameters).1 = (s.bindAll parameters).1 ∧
      SameStatement (s.bindAll parameters).2 (s'.bindAll parameters).2 := by
  unfold Session.bindAll
  rw [h.parameters_eq]
  cases s.parameters.mergeDisjoint parameters with
  | ok merged => exact ⟨rfl, h.query?_eq, rfl, h.procedure?_eq⟩
  | error failure => exact ⟨rfl, h⟩

theorem SameStatement.addCondition (h : SameStatement s s') (keyword condition : String)
    (parameters : Parameters) :
    (s'.addCondition keyword condition parameters).1 = (s.addCondition keyword condition parameters).1 ∧
      SameStatement (s.addCondition keyword condition parameters).2
        (s'.addCondition keyword condition parameters).2 := by
  obtain ⟨answer, bound⟩ := h.bindAll parameters
  unfold Session.addCondition
  cases binding : s.bindAll parameters with
  | mk outcome session =>
    cases binding' : s'.bindAll parameters with
    | mk outcome' session' =>
      rw [binding, binding'] at answer bound
      cases outcome with
      | ok _ =>
        rw [show outcome' = .ok () from answer]
        exact ⟨rfl, bound.append _⟩
      | error failure =>
        rw [show outcome' = .error failure from answer]
        exact ⟨rfl, bound⟩

theorem SameStatement.updateCall (h : SameStatement s s') (change : ProcedureCall → ProcedureCall) :
    SameStatement (s.updateCall change) (s'.updateCall change) where
  query?_eq := h.query?_eq
  parameters_eq := h.parameters_eq
  procedure?_eq := by simp only [Session.updateCall, h.procedure?_eq]

theorem SameStatement.editSelect (h : SameStatement s s') (edit : List Char → Option (List Char)) :
    SameStatement (s.editSelect edit) (s'.editSelect edit) where
  query?_eq := by simp only [Session.editSelect, h.query?_eq]
  parameters_eq := h.parameters_eq
  procedure?_eq := h.procedure?_eq

end Session

theorem Opening.sameStatement_perform (s s' : Session) (opening : Opening) :
    Session.SameStatement (opening.perform s) (opening.perform s') := by
  cases opening <;> exact ⟨rfl, rfl, rfl⟩

theorem Clause.sameStatement_perform (h : s.SameStatement s') (clause : Clause) :
    (clause.perform s').1 = (clause.perform s).1 ∧
      (clause.perform s).2.SameStatement (clause.perform s').2 := by
  cases clause with
  | distinct => exact ⟨rfl, h.editSelect _⟩
  | top rows => exact ⟨rfl, h.editSelect _⟩
  | fromTable table name? => exact ⟨rfl, h.append _⟩
  | withNoLock => exact ⟨rfl, h.append _⟩
  | join table name? kind => exact ⟨rfl, h.append _⟩
  | joinOn condition parameters => exact h.addCondition _ _ _
  | filter condition parameters => exact h.addCondition _ _ _
  | groupBy columns => exact ⟨rfl, h.append _⟩
  | having condition parameters => exact h.addCondition _ _ _
  | orderBy columns => exact ⟨rfl, h.append _⟩
  | ascending => exact ⟨rfl, h.append _⟩
  | descending => exact ⟨rfl, h.append _⟩
  | insertValues parameters =>
    simp only [perform]
    split
    · exact ⟨rfl, h⟩
    · exact (h.append _).bindAll parameters
  | updateSet parameters =>
    simp only [perform]
    split
    · exact ⟨rfl, h⟩
    · exact (h.append _).bindAll parameters
  | withParameter name value =>
    exact ⟨rfl, h.updateCall fun call => { call with parameters := call.parameters.bind name value }⟩
  | withParameters parameters =>
    exact ⟨rfl, h.updateCall fun call => { call with parameters := call.parameters.merge parameters }⟩
  | withFieldsOf payload =>
    simp only [perform]
    split
    next parameters _ =>
      exact ⟨rfl, h.updateCall fun call => { call with parameters := call.parameters.merge parameters }⟩
    next => exact ⟨rfl, h⟩
  | withOutputs outputs =>
    exact ⟨rfl, h.updateCall fun call => { call with outputs := call.outputs ++ outputs }⟩

/-- Two chains that go the same way: the stages admit neither, a clause of each fails alike, or both come to one
stage, and the sessions they leave hold the same statement. -/
inductive Statement.AddedAlike : Option (Except Failure Statement × Session) →
    Option (Except Failure Statement × Session) → Prop where
  | unadmitted : AddedAlike none none
  | failed (failure : Failure) {left left' : Session} (same : left.SameStatement left') :
      AddedAlike (some (.error failure, left)) (some (.error failure, left'))
  | added (stage : Stage) {s s' left left' : Session} (same : s.SameStatement s') :
      AddedAlike (some (.ok ⟨stage, s⟩, left)) (some (.ok ⟨stage, s'⟩, left'))

theorem Statement.addedAlike (h : s.SameStatement s') (stage : Stage) (clauses : List Clause) :
    AddedAlike (addAll? ⟨stage, s⟩ clauses) (addAll? ⟨stage, s'⟩ clauses) := by
  induction clauses generalizing stage s s' with
  | nil => exact .added stage h
  | cons clause rest ih =>
    obtain ⟨answer, after⟩ := clause.sameStatement_perform h
    unfold addAll? add?
    cases stage.next? clause with
    | none => exact .unadmitted
    | some next =>
      simp only [Option.map_some, answer]
      cases (clause.perform s).1 with
      | error failure => exact .failed failure after
      | ok _ => exact ih after next

/-- A chain goes the same way in all sessions. -/
theorem Statement.writtenAlike (s s' : Session) (opening : Opening) (clauses : List Clause) :
    AddedAlike ((start s opening).addAll? clauses) ((start s' opening).addAll? clauses) :=
  addedAlike (opening.sameStatement_perform s s') opening.stage clauses

theorem Statement.addAll?_of_sameStatement {stage : Stage} {longer : Statement}
    (h : s.SameStatement s') (added : addAll? ⟨stage, s⟩ clauses = some (.ok longer, left)) :
    ∃ longer' left', addAll? ⟨stage, s'⟩ clauses = some (.ok longer', left') ∧ longer'.stage = longer.stage ∧
      longer.session.SameStatement longer'.session := by
  have alike := addedAlike h stage clauses
  rw [added] at alike
  generalize addAll? ⟨stage, s'⟩ clauses = other at alike
  cases alike with
  | added _ same => exact ⟨_, _, rfl, rfl, same⟩

theorem Session.query?_bindAll (s : Session) (parameters : Parameters) :
    (s.bindAll parameters).2.query? = s.query? := by
  unfold bindAll
  split <;> rfl

theorem Session.isSome_query?_addCondition (h : s.query?.isSome = true) (keyword condition : String)
    (parameters : Parameters) : (s.addCondition keyword condition parameters).2.query?.isSome = true := by
  have bound := s.query?_bindAll parameters
  unfold addCondition
  split
  next => rfl
  next unbound binding =>
    rw [binding] at bound
    rw [bound]
    exact h

/-- A text that is being written stays there, whatever comes of a clause. -/
theorem Clause.isSome_query?_perform (h : s.query?.isSome = true) (clause : Clause) :
    (clause.perform s).2.query?.isSome = true := by
  cases clause with
  | distinct => simpa [perform, Session.editSelect] using h
  | top rows => simpa [perform, Session.editSelect] using h
  | joinOn condition parameters => exact Session.isSome_query?_addCondition h _ _ _
  | filter condition parameters => exact Session.isSome_query?_addCondition h _ _ _
  | having condition parameters => exact Session.isSome_query?_addCondition h _ _ _
  | insertValues parameters =>
    simp only [perform]
    split
    · exact h
    · rw [Session.query?_bindAll]
      rfl
  | updateSet parameters =>
    simp only [perform]
    split
    · exact h
    · rw [Session.query?_bindAll]
      rfl
  | withParameter name value => exact h
  | withParameters parameters => exact h
  | withFieldsOf payload =>
    simp only [perform]
    split <;> exact h
  | withOutputs outputs => exact h
  | _ => rfl

theorem Statement.isSome_query?_addAll? {longer : Statement} (h : t.session.query?.isSome = true)
    (added : t.addAll? clauses = some (.ok longer, left)) : longer.session.query?.isSome = true := by
  induction clauses generalizing t with
  | nil => rwa [addAll?_nil_eq_ok added]
  | cons clause rest ih =>
    obtain ⟨next, _, _, later⟩ := addAll?_cons_eq_ok added
    exact ih (clause.isSome_query?_perform h) later

theorem Opening.isSome_query?_perform (text : opening.stage.isProcedure = false) (s : Session) :
    (opening.perform s).query?.isSome = true := by
  cases opening with
  | procedure name => simp [stage, Stage.isProcedure] at text
  | _ => rfl

/-- A text whose clauses all went in is handed over as one command, or not at all where no connection is
to be had. The command carries the text of the session and what the clauses bound: each name once, in the
order in which the names first came, with a value alike to every value that was bound to it. A session
with any other past hands over the same text and the same parameters. -/
theorem Statement.finish_carries (text : opening.stage.isProcedure = false)
    (written : (start s opening).addAll? clauses = some (.ok t, left)) {terminal : Terminal α}
    (admitted : terminal.admitted t.stage = true) (layer : DataLayer σ) (w : World σ) :
    ∃ command events, (t.finish layer terminal w).2.trace = w.trace ++ events ∧
      (handedOver events = [command] ∨ handedOver events = [] ∧ Unreached events) ∧
      t.session.query? = some command.text ∧ command.kind = .text ∧ command.outputs = [] ∧
      command.parameters.names = ((clauses.flatMap Clause.bound).map (·.1)).eraseDups ∧
      (∀ clause ∈ clauses, ∀ pair ∈ clause.bound,
        ∃ value, Entries.find? pair.1 command.parameters.entries = some value ∧ value.Alike pair.2) ∧
      ∀ other, ∃ t' left', (start other opening).addAll? clauses = some (.ok t', left') ∧
        t'.stage = t.stage ∧ t'.session.query? = some command.text ∧
        t'.session.parameters = command.parameters := by
  have collects := collects_written written
  have subject : terminal.subject = .written := by
    rw [Terminal.subject_of_admitted admitted, isProcedure_addAll? written]
    exact if_neg (by simp [start, text])
  obtain ⟨query, present⟩ : ∃ query, t.session.query? = some query :=
    Option.isSome_iff_exists.mp (isSome_query?_addAll? (opening.isSome_query?_perform text s) written)
  have comes : t.session.command (t.session.timeout? <|> w.timeout?) terminal.subject =
      .ok (.statement query t.session.parameters (t.session.timeout? <|> w.timeout?)) := by
    simp only [subject, Session.command, Session.query, present, Option.getD_some]
  obtain ⟨events, trace, handed⟩ := finish_handsOver comes layer w rfl
  refine ⟨_, events, trace, handed, present, rfl, rfl, collects.names_eq, ?_, ?_⟩
  · intro clause mem pair bound
    exact collects.find? pair (List.mem_flatMap.mpr ⟨clause, mem, bound⟩)
  · intro other
    obtain ⟨t', left', added, stage, same⟩ :=
      addAll?_of_sameStatement (opening.sameStatement_perform s other) written
    exact ⟨t', left', added, stage, same.query?_eq.trans present, same.parameters_eq⟩

/-- A name that two clauses bind to equal values is handed over once, and what the session held before is
gone. -/
theorem Statement.finish_carries_rebound :
    let used : Session := { target := "", query? := some "DELETE FROM U WHERE z = @z",
                            parameters := Parameters.empty.bind "z" (.int 9) }
    ∃ t left, (Opening.select ["a"]).stage.isProcedure = false ∧
      (start used (.select ["a"])).addAll?
          [.fromTable "T" none, .filter "b = @x" (Parameters.empty.bind "x" (.float ⟨0⟩)), .groupBy ["a"],
            .having "SUM(c) > @x + @y"
              ((Parameters.empty.bind "@y" (.int 2)).bind "x" (.float ⟨0x8000000000000000⟩))] =
        some (.ok t, left) ∧
      (Terminal.query .rows : Terminal Unit).admitted t.stage = true ∧
      ∃ command events,
        (t.finish Recorder.layer (.query .rows : Terminal Unit) ⟨{}, 0, none, []⟩).2.trace = events ∧
        (handedOver events = [command] ∨ handedOver events = [] ∧ Unreached events) ∧
        command.text = "SELECT a FROM T WHERE b = @x GROUP BY a HAVING SUM(c) > @x + @y" ∧
        command.parameters.names = ["@x", "@y"] := by
  intro used
  obtain ⟨t, left, written, query, stage⟩ : ∃ t left,
      (start used (.select ["a"])).addAll?
          [.fromTable "T" none, .filter "b = @x" (Parameters.empty.bind "x" (.float ⟨0⟩)), .groupBy ["a"],
            .having "SUM(c) > @x + @y"
              ((Parameters.empty.bind "@y" (.int 2)).bind "x" (.float ⟨0x8000000000000000⟩))] =
        some (.ok t, left) ∧
      t.session.query? = some "SELECT a FROM T WHERE b = @x GROUP BY a HAVING SUM(c) > @x + @y" ∧
      t.stage = .having := by
    refine ⟨_, _, rfl, ?_, rfl⟩
    decide +kernel
  have admitted : (Terminal.query .rows : Terminal Unit).admitted t.stage = true := by rw [stage]; rfl
  obtain ⟨command, events, trace, handed, text, _, _, names, _⟩ :=
    finish_carries rfl written admitted Recorder.layer ⟨{}, 0, none, []⟩
  refine ⟨t, left, rfl, written, admitted, command, events, trace, handed, ?_, ?_⟩
  · exact (Option.some.inj (query.symm.trans text)).symm
  · rw [names]
    decide +kernel

end TypedSql
