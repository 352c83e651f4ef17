import TypedSql.Proofs.Outputs
import TypedSql.Proofs.Session.Answers
import TypedSql.Proofs.Statement.Called
import TypedSql.Recorder

namespace TypedSql

variable {σ α : Type} {layer : DataLayer σ} {s left : Session} {w : World σ} {t : Statement} {name : String}
  {clauses : List Clause} {declared : List OutputParameter} {output : OutputParameter}
  {reported : List (String × Value)} {value : Value}

/-- The data layer answers a command of the session, and these are the outputs it reports. -/
inductive Session.Reports (layer : DataLayer σ) (s : Session) (w : World σ) :
    Call → List (String × Value) → Prop where
  | execute {command : Command} {outcome : ExecuteOutcome}
      (answered : (s.dispatch layer (.execute command) w).1 = .ok outcome) :
      Reports layer s w (.execute command) outcome.outputs
  | query {command : Command} {outcome : QueryOutcome}
      (answered : (s.dispatch layer (.query command) w).1 = .ok outcome) :
      Reports layer s w (.query command) outcome.outputs

/-- No output that was declared before under another name has the same variable. -/
def IsFirst (declared : List OutputParameter) (output : OutputParameter) : Prop :=
  ∀ first, declared.find? (·.variableName = output.variableName) = some first → first.name = output.name

theorem mem_readOutputs_iff (mem : output ∈ declared)
    (held : Entries.find? output.variableName reported = some value) :
    (output.name, value) ∈ readOutputs declared reported ↔ IsFirst declared output := by
  have variableName : Name.marked output.name = output.variableName := rfl
  rw [Entries.mem_iff_find? (nodup_readOutputs declared reported), find?_readOutputs, variableName, held]
  unfold IsFirst
  cases found : declared.find? (·.variableName = output.variableName) with
  | none =>
    have := List.find?_eq_none.mp found output mem
    simp at this
  | some first => simp

theorem forall_isFirst_iff :
    (∀ output ∈ declared, (Entries.find? output.variableName reported).isSome = true →
        IsFirst declared output) ↔
      ∀ output ∈ declared, (Entries.find? output.variableName reported).isSome = true →
        ∀ other ∈ declared, other.variableName = output.variableName → other.name = output.name := by
  constructor
  · intro first output mem held other mem' same
    have own := first output mem held
    have others := first other mem' (same ▸ held)
    unfold IsFirst at own others
    rw [same] at others
    cases found : declared.find? (·.variableName = output.variableName) with
    | none =>
      have := List.find?_eq_none.mp found output mem
      simp at this
    | some earliest => rw [← own earliest found, ← others earliest found]
  · intro apart output mem held first found
    have same : first.variableName = output.variableName := by simpa using List.find?_some found
    exact apart output mem held first (List.mem_of_find?_eq_some found) same

/-- The outputs in a result, where these were declared and these values were reported. -/
structure HandsBack {β : Type} (declared : List OutputParameter) (reported : List (String × Value))
    (r : Session.Returned β) : Prop where
  once : (r.outputs.map (·.1)).Nodup
  only : ∀ entry ∈ r.outputs, ∃ output ∈ declared,
    output.name = entry.1 ∧ Entries.find? output.variableName reported = some entry.2
  mem_iff : ∀ output ∈ declared, ∀ value, Entries.find? output.variableName reported = some value →
    ((output.name, value) ∈ r.outputs ↔ IsFirst declared output)
  /-- None is lost exactly if no two of different names share a variable that was reported. -/
  complete_iff : (∀ output ∈ declared, ∀ value, Entries.find? output.variableName reported = some value →
      (output.name, value) ∈ r.outputs) ↔
    ∀ output ∈ declared, (Entries.find? output.variableName reported).isSome = true →
      ∀ other ∈ declared, other.variableName = output.variableName → other.name = output.name
  /-- One that is declared again adds nothing. -/
  again : ∀ front output back, declared = front ++ output :: back →
    (∃ before ∈ front, before.name = output.name) → r.outputs = readOutputs (front ++ back) reported
  /-- It is found by any spelling that is stored as its name. -/
  output?_iff : ∀ output ∈ declared, ∀ spelling, Name.bare spelling = output.name →
    ∀ value, r.output? spelling = some value ↔ (output.name, value) ∈ r.outputs

theorem handsBack_of_outputs_eq {β : Type} {r : Session.Returned β}
    (read : r.outputs = readOutputs declared reported) : HandsBack declared reported r := by
  have exactly : ∀ output ∈ declared, ∀ value, Entries.find? output.variableName reported = some value →
      ((output.name, value) ∈ readOutputs declared reported ↔ IsFirst declared output) :=
    fun output mem value held => mem_readOutputs_iff mem held
  constructor
  case once =>
    rw [read]
    exact nodup_readOutputs _ _
  case only =>
    rw [read]
    exact fun entry mem => exists_of_mem_readOutputs mem
  case mem_iff =>
    rw [read]
    exact exactly
  case complete_iff =>
    rw [read, ← forall_isFirst_iff]
    constructor
    · intro all output mem held
      obtain ⟨value, found⟩ := Option.isSome_iff_exists.mp held
      exact (exactly output mem value found).mp (all output mem value found)
    · intro first output mem value found
      exact (exactly output mem value found).mpr (first output mem (Option.isSome_iff_exists.mpr ⟨value, found⟩))
  case again =>
    rintro front output back split ⟨before, mem, same⟩
    rw [read, split]
    exact readOutputs_append_cons ⟨before, mem, congrArg Name.marked same⟩ back reported
  case output?_iff =>
    intro output _ spelling stored value
    unfold Session.Returned.output?
    rw [stored, read, ← Entries.mem_iff_find? (nodup_readOutputs declared reported)]

namespace Statement

theorem outputs_finish {command : Command} {terminal : Terminal α} {r : Session.Returned (Result α)}
    (procedure : terminal.subject = .procedure)
    (comes : t.session.command (t.session.timeout? <|> w.timeout?) .procedure = .ok command)
    (finished : (t.finish layer terminal w).1 = .ok r) :
    ∃ reported, t.session.Reports layer w (terminal.call command) reported ∧
      r.outputs = readOutputs (t.session.declared .procedure) reported := by
  cases terminal with
  | query take => cases procedure
  | execute => cases procedure
  | callExecute =>
    rw [callExecute_answer comes] at finished
    cases answered : (t.session.dispatch layer (.execute command) w).1 with
    | error failure => rw [answered] at finished; cases finished
    | ok outcome =>
      rw [answered] at finished
      cases finished
      exact ⟨_, .execute answered, rfl⟩
  | callQuery take =>
    rw [callQuery_answer comes] at finished
    cases answered : (t.session.dispatch layer (.query command) w).1 with
    | error failure => rw [answered] at finished; cases finished
    | ok outcome =>
      simp only [answered, Except.bind] at finished
      cases taken : take.apply outcome.resultSet with
      | error failure => rw [taken] at finished; cases finished
      | ok rows =>
        rw [taken] at finished
        cases finished
        exact ⟨_, .query answered, rfl⟩

/-- Where a call succeeds, the caller gets outputs that were declared, each once, with the value that the
data layer reported under its variable, and nothing else. A declared output whose value was reported is
among them exactly if the first output declared with its variable is stored under the same name. -/
theorem finish_handsBack (written : (start s (.procedure name)).addAll? clauses = some (.ok t, left))
    {terminal : Terminal α} (admitted : terminal.admitted t.stage = true) {r : Session.Returned (Result α)}
    (finished : (t.finish layer terminal w).1 = .ok r) :
    ∃ command reported,
      t.session.command (t.session.timeout? <|> w.timeout?) .procedure = .ok command ∧
      command.outputs = clauses.flatMap Clause.outputs ∧
      t.session.Reports layer w (terminal.call command) reported ∧
      HandsBack (clauses.flatMap Clause.outputs) reported r := by
  obtain ⟨call, held, holds⟩ := calls_written written
  have procedure : terminal.subject = .procedure := by
    rw [Terminal.subject_of_admitted admitted, isProcedure_addAll? written]
    rfl
  have comes : t.session.command (t.session.timeout? <|> w.timeout?) .procedure =
      .ok (call.command (t.session.timeout? <|> w.timeout?)) := by
    simp only [Session.command, held]
  have outputs : t.session.declared .procedure = clauses.flatMap Clause.outputs := by
    simp only [Session.declared, held, Option.map_some, Option.getD_some, holds.outputs_eq]
  obtain ⟨reported, reports, read⟩ := outputs_finish procedure comes finished
  rw [outputs] at read
  exact ⟨_, reported, comes, holds.outputs_eq, reports, handsBack_of_outputs_eq read⟩

/-- The surroundings of a recorder that reports these outputs. -/
def reporting (outputs : List (String × Value)) : World Recorder.State := ⟨⟨{ outputs }, []⟩, 0, none, []⟩

/-- An output that is declared twice, one that is not reported, and a value that nobody asked for. -/
theorem finish_handsBack_declared_twice :
    let clauses : List Clause :=
      [.withOutputs [.new "@id" .int32, .withSize "message" .string 50], .withOutputs [.new "id" .int64]]
    let reported : List (String × Value) := [("@other", .int 1), ("@id", .int 7)]
    ∃ t left r, (start (.new "") (.procedure "dbo.CreateUser")).addAll? clauses = some (.ok t, left) ∧
      (Terminal.callExecute : Terminal Unit).admitted t.stage = true ∧
      (t.finish Recorder.layer (.callExecute : Terminal Unit) (reporting reported)).1 = .ok r ∧
      HandsBack (clauses.flatMap Clause.outputs) reported r ∧ r.outputs = [("id", .int 7)] := by
  intro clauses reported
  obtain ⟨t, left, written, admitted, said, r, finished, outputs⟩ : ∃ t left,
      (start (.new "") (.procedure "dbo.CreateUser")).addAll? clauses = some (.ok t, left) ∧
        (Terminal.callExecute : Terminal Unit).admitted t.stage = true ∧
        (∀ command outcome,
          (t.session.dispatch Recorder.layer (.execute command) (reporting reported)).1 = .ok outcome →
            outcome.outputs = reported) ∧
        ∃ r, (t.finish Recorder.layer (.callExecute : Terminal Unit) (reporting reported)).1 = .ok r ∧
          r.outputs = [("id", .int 7)] := by
    refine ⟨_, _, rfl, rfl, ?_, _, rfl, rfl⟩
    intro command outcome answered
    cases answered
    rfl
  obtain ⟨command, _, _, _, reports, handsBack⟩ := finish_handsBack written admitted finished
  cases reports with
  | execute answered =>
    rw [said command _ answered] at handsBack
    exact ⟨t, left, r, written, admitted, finished, handsBack, outputs⟩

/-- Of two outputs that are stored under different names and share a variable the second is lost. -/
theorem finish_loses_shared :
    let clauses : List Clause := [.withOutputs [.new "x" .int32], .withOutputs [.new "@@x" .int32]]
    ∃ t left r, (start (.new "") (.procedure "dbo.CreateUser")).addAll? clauses = some (.ok t, left) ∧
      t.stage = .storedProcedureOutput ∧
      (t.finish Recorder.layer (.callExecute : Terminal Unit) (reporting [("@x", .int 5)])).1 = .ok r ∧
      (clauses.flatMap Clause.outputs).map (fun output => (output.name, output.variableName)) =
        [("x", "@x"), ("@x", "@x")] ∧
      r.outputs = [("x", .int 5)] ∧ r.output? "@@x" = none :=
  ⟨_, _, _, rfl, rfl, rfl, rfl, rfl, rfl⟩

end Statement

end TypedSql
