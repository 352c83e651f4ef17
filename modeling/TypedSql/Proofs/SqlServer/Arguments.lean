import Mathlib.Data.List.Induction
import TypedSql.Proofs.SqlServer.Reach
import TypedSql.Proofs.SqlServer.Substitution
import TypedSql.Proofs.Statement.Called

namespace TypedSql

open Placeholder SqlServer

/-- The pair that was given last under its name. -/
def IsLast (given : List (String × Value)) (pair : String × Value) : Prop :=
  ∃ front back, given = front ++ pair :: back ∧ pair.1 ∉ back.map (·.1)

theorem isLast_of_find?_putAll {given : List (String × Value)} {name : String} {value : Value}
    (found : Entries.find? name (Entries.putAll [] given) = some value) : IsLast given (name, value) := by
  induction given using List.reverseRecOn with
  | nil => cases found
  | append_singleton front last ih =>
    rw [Entries.putAll, List.foldl_append, List.foldl_cons, List.foldl_nil, Entries.find?_put] at found
    split at found
    next same =>
      cases found
      exact ⟨front, [], by rw [← same], List.not_mem_nil⟩
    next other =>
      obtain ⟨before, back, whole, fresh⟩ := ih found
      refine ⟨before, back ++ [last], ?_, ?_⟩
      · rw [whole, List.append_assoc, List.cons_append]
      · rw [List.map_append, List.mem_append, not_or]
        exact ⟨fresh, fun mem => other (List.mem_singleton.mp mem).symm⟩

/-- The names of the inputs that were given, in the order in which they first came. -/
def inputNames (given : List (String × Value)) : List String := (given.map (·.1)).eraseDups

namespace SqlServer

/-- The arguments in the text of a call: each input once, by the position of its value, and behind them
each output, by its variable. -/
structure Passes (inputs : List String) (outputs : List OutputParameter) (passed : List String) : Prop where
  once : inputs.Nodup
  length_eq : passed.length = inputs.length + outputs.length
  input : ∀ (i : Nat) (name : String), inputs[i]? = some name →
    passed[i]? = some (name ++ " = " ++ positional (i + 1))
  output : ∀ (i : Nat) (output : OutputParameter), outputs[i]? = some output →
    passed[inputs.length + i]? = some (output.variableName ++ " = " ++ output.variableName ++ " OUTPUT")

/-- The text that calls a procedure with these arguments. -/
def execText (name : String) (passed : List String) : String :=
  if passed = [] then "EXEC " ++ name else "EXEC " ++ name ++ " " ++ ", ".intercalate passed

/-- A request that calls a procedure: alone, or in the batch that hands the outputs back. It has a value for
each input, at the position that the text passes it by: the one that was given last. -/
structure PassesGiven (name : String) (given : List (String × Value)) (outputs : List OutputParameter)
    (countRows : Bool) (sent : Request) : Prop where
  text : ∃ passed, Passes (inputNames given) outputs passed ∧
    sent.sql = if outputs = [] then execText name passed
      else String.join (outputs.map declareText) ++ execText name passed ++ ";\n" ++
        "SELECT " ++ ", ".intercalate (readBackColumns outputs countRows) ++ ";"
  length_eq : sent.arguments.length = (inputNames given).length
  value : ∀ (i : Nat) (name : String), (inputNames given)[i]? = some name →
    ∃ value, IsLast given (name, value) ∧ sent.arguments[i]? = some (Argument.ofValue value)

theorem passes_callArguments (parameters : Parameters) (outputs : List OutputParameter) :
    Passes parameters.names outputs (callArguments parameters outputs) where
  once := parameters.distinct
  length_eq := by simp [callArguments]
  input := by
    intro i name named
    obtain ⟨bound, rfl⟩ := List.getElem?_eq_some_iff.mp named
    rw [callArguments, List.getElem?_append_left (by simpa using bound)]
    simp [bound, Nat.add_comm]
  output := by
    intro i output declared
    rw [callArguments, List.getElem?_append_right (by simp)]
    simp [declared]

theorem callText_eq (name : String) (parameters : Parameters) (outputs : List OutputParameter) :
    callText name parameters outputs = execText name (callArguments parameters outputs) := by
  unfold callText execText
  split
  next none => rw [if_pos none]
  next some => rw [if_neg some]

end SqlServer

variable {s left : Session} {t : Statement} {call : ProcedureCall} {name : String} {clauses : List Clause}
  {given : List (String × Value)} {outputs : List OutputParameter}

theorem ProcedureCall.Holds.passesGiven (h : call.Holds name given outputs)
    (timeout : Option Nat) (countRows : Bool) :
    PassesGiven name given outputs countRows (.ofCommand (call.command timeout) countRows) := by
  have names : call.parameters.names = inputNames given := h.names_eq
  constructor
  case text =>
    refine ⟨callArguments call.parameters call.outputs, ?_, ?_⟩
    · rw [← names, ← h.outputs_eq]
      exact passes_callArguments _ _
    · rw [← h.outputs_eq, ← h.name_eq]
      by_cases none : call.outputs = []
      · simp [Request.ofCommand, Request.new, commandText, ProcedureCall.command, none, callText_eq]
      · simp [Request.ofCommand, Request.new, commandText, ProcedureCall.command, none, callText_eq, outputBatch,
          String.append_assoc]
  case length_eq =>
    rw [← names]
    simp [Request.ofCommand, Request.new, ProcedureCall.command, Parameters.names, Parameters.values]
  case value =>
    intro i name named
    rw [← names, Parameters.names, List.getElem?_map] at named
    obtain ⟨entry, there, rfl⟩ := Option.map_eq_some_iff.mp named
    have held : Entries.find? entry.1 call.parameters.entries = some entry.2 :=
      Entries.find?_of_mem call.parameters.distinct (List.mem_of_getElem? there)
    rw [h.entries_eq] at held
    refine ⟨entry.2, isLast_of_find?_putAll held, ?_⟩
    simp [Request.ofCommand, Request.new, ProcedureCall.command, Parameters.values, there]

theorem Clause.flatMap_inputs_withOutputs (more : List (List OutputParameter)) :
    (more.map Clause.withOutputs).flatMap Clause.inputs = [] := by
  rw [List.flatMap_map]
  exact List.flatMap_eq_nil_iff.mpr fun _ _ => rfl

theorem Clause.flatMap_outputs_withOutputs (more : List (List OutputParameter)) :
    (more.map Clause.withOutputs).flatMap Clause.outputs = more.flatten := by
  rw [List.flatMap_map]
  exact List.flatMap_id

namespace Statement

variable {α : Type} {terminal : Terminal α}

theorem Terminal.admitted_of_isProcedure {stage stage' : Stage} (admitted : terminal.admitted stage = true)
    (procedure : stage.isProcedure = true) (procedure' : stage'.isProcedure = true) :
    terminal.admitted stage' = true := by
  have subject := Terminal.subject_of_admitted admitted
  rw [if_pos procedure] at subject
  cases terminal with
  | query take => cases subject
  | execute => cases subject
  | callQuery take => exact procedure'
  | callExecute => exact procedure'

/-- A call that has its inputs can be given outputs. -/
theorem exists_addAll?_withOutputs (procedure : t.stage.isProcedure = true)
    (more : List (List OutputParameter)) :
    ∃ t' left', t.addAll? (more.map Clause.withOutputs) = some (.ok t', left') := by
  induction more generalizing t with
  | nil => exact ⟨t, _, rfl⟩
  | cons outputs rest ih =>
    obtain ⟨stage, session⟩ := t
    have step : stage.next? (.withOutputs outputs) = some .storedProcedureOutput := by
      cases stage <;> first | rfl | cases procedure
    obtain ⟨t', left', added⟩ :=
      @ih ⟨.storedProcedureOutput, ((Clause.withOutputs outputs).perform session).2⟩ rfl
    refine ⟨t', left', ?_⟩
    simp only [List.map_cons, addAll?, add?, step, Option.map_some]
    exact added

theorem exists_sends_given (written : (start s (.procedure name)).addAll? clauses = some (.ok t, left))
    (admitted : terminal.admitted t.stage = true) :
    ∃ sent, t.Sends terminal sent ∧
      PassesGiven name (clauses.flatMap Clause.inputs) (clauses.flatMap Clause.outputs)
        terminal.countsRows sent ∧
      sent.arguments =
        (Entries.putAll [] (clauses.flatMap Clause.inputs)).map fun entry => Argument.ofValue entry.2 := by
  obtain ⟨call, held, holds⟩ := calls_written written
  have subject : terminal.subject = .procedure := by
    rw [Terminal.subject_of_admitted admitted, isProcedure_addAll? written]
    rfl
  have comes : ∀ default? : Option Nat, ∃ command,
      t.session.command (t.session.timeout? <|> default?) terminal.subject = .ok command ∧
        .ofCommand command terminal.countsRows = Request.ofCommand (call.command none) terminal.countsRows :=
    fun default? => ⟨call.command (t.session.timeout? <|> default?),
      by simp only [subject, Session.command, held], rfl⟩
  refine ⟨_, sends_of_command comes, holds.passesGiven none terminal.countsRows, ?_⟩
  simp only [Request.ofCommand, Request.new, ProcedureCall.command, Parameters.values, List.map_map,
    holds.entries_eq]
  rfl

/-- However the inputs of a call were given, and given again: the call is sent as one request, which passes
each input once, in the order in which the inputs first came and by the position of the value that it was
given last. Outputs that are added go behind the inputs and leave the values that are sent as they are. -/
theorem sends_given_in_order (written : (start s (.procedure name)).addAll? clauses = some (.ok t, left))
    (admitted : terminal.admitted t.stage = true) :
    let given := clauses.flatMap Clause.inputs
    let outputs := clauses.flatMap Clause.outputs
    ∃ sent, t.Sends terminal sent ∧ PassesGiven name given outputs terminal.countsRows sent ∧
      ∀ more : List (List OutputParameter), ∃ t' left' sent',
        (start s (.procedure name)).addAll? (clauses ++ more.map .withOutputs) = some (.ok t', left') ∧
        terminal.admitted t'.stage = true ∧ t'.Sends terminal sent' ∧
        PassesGiven name given (outputs ++ more.flatten) terminal.countsRows sent' ∧
        sent'.arguments = sent.arguments := by
  intro given outputs
  obtain ⟨sent, sends, passes, values⟩ := exists_sends_given written admitted
  refine ⟨sent, sends, passes, fun more => ?_⟩
  have procedure : t.stage.isProcedure = true := isProcedure_addAll? written
  obtain ⟨t', left', added⟩ := exists_addAll?_withOutputs procedure more
  have written' := (addAll?_append written (more.map .withOutputs)).trans added
  have admitted' : terminal.admitted t'.stage = true :=
    Terminal.admitted_of_isProcedure admitted procedure ((isProcedure_addAll? added).trans procedure)
  obtain ⟨sent', sends', passes', values'⟩ := exists_sends_given written' admitted'
  rw [List.flatMap_append, Clause.flatMap_inputs_withOutputs, List.append_nil] at passes' values'
  rw [List.flatMap_append, Clause.flatMap_outputs_withOutputs] at passes'
  exact ⟨t', left', sent', written', admitted', sends', passes', values'.trans values.symm⟩

/-- An input that is given again under another spelling keeps its place and its position. -/
theorem sends_given_in_order_rebound :
    let clauses : List Clause :=
      [.withParameter "a" (.int 1), .withParameters (.ofList [("b", .int 2), ("@a", .int 3)])]
    let given : List (String × Value) := [("@a", .int 1), ("@b", .int 2), ("@a", .int 3)]
    let sent : Request := ⟨"EXEC dbo.CreateUser @a = @P1, @b = @P2", [.bigint 3, .bigint 2]⟩
    let w : World (State (Unit × List Request)) := ⟨⟨[], (), []⟩, 0, none, []⟩
    ∃ t left, (start (.new "") (.procedure "dbo.CreateUser")).addAll? clauses = some (.ok t, left) ∧
      (Terminal.callExecute : Terminal Unit).admitted t.stage = true ∧
      (t.finish (layer Server.mute.recorded) (.callExecute : Terminal Unit) w).2.layer.requests = [sent] ∧
      PassesGiven "dbo.CreateUser" given [] true sent ∧
      ∃ t' left' sent',
        (start (.new "") (.procedure "dbo.CreateUser")).addAll? (clauses ++ [.withOutputs [.new "id" .int32]]) =
          some (.ok t', left') ∧
        PassesGiven "dbo.CreateUser" given [.new "id" .int32] true sent' ∧ sent'.arguments = sent.arguments := by
  intro clauses given sent w
  obtain ⟨t, left, written, admitted, inputs, idle, ⟨settings, understood⟩, requests⟩ : ∃ t left,
      (start (.new "") (.procedure "dbo.CreateUser")).addAll? clauses = some (.ok t, left) ∧
        (Terminal.callExecute : Terminal Unit).admitted t.stage = true ∧
        clauses.flatMap Clause.inputs = given ∧ t.session.transaction? = none ∧
        (∃ settings, readConnectionString t.session.target = .ok settings) ∧
        (t.finish (layer Server.mute.recorded) (.callExecute : Terminal Unit) w).2.layer.requests = [sent] :=
    ⟨_, _, rfl, rfl, rfl, rfl, ⟨_, rfl⟩, rfl⟩
  obtain ⟨only, sends, passes, adding⟩ := sends_given_in_order written admitted
  have reaches : Reaches Server.mute.recorded t.session w ((), []) := .alone idle understood rfl
  have same : [only] = [sent] := ((sends _ Server.mute w).2 _ reaches).symm.trans requests
  rw [List.singleton_inj.mp same, inputs] at passes
  obtain ⟨t', left', sent', written', _, _, passes', values⟩ := adding [[.new "id" .int32]]
  rw [inputs] at passes'
  rw [List.singleton_inj.mp same] at values
  exact ⟨t, left, written, admitted, requests, passes, t', left', sent', written', passes', values⟩

end Statement

end TypedSql
