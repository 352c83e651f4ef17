import TypedSql.Proofs.Binding
import TypedSql.Proofs.Statement.Steps

namespace TypedSql

/-- The inputs that a clause gives to a procedure. -/
def Clause.inputs : Clause → List (String × Value)
  | .withParameter name value => [(Name.marked name, value)]
  | .withParameters parameters => parameters.entries
  | .withFieldsOf payload =>
    match payload.toJson.bind Parameters.ofJson with
    | .ok parameters => parameters.entries
    | .error _ => []
  | _ => []

def Clause.outputs : Clause → List OutputParameter
  | .withOutputs outputs => outputs
  | _ => []

variable {s s' left : Session} {t longer : Statement} {call : ProcedureCall} {name : String}
  {clauses : List Clause} {inputs : List (String × Value)} {outputs : List OutputParameter}

/-- A call holds what was given to it: of one input the last value, at its first place, and every output
that was declared. -/
structure ProcedureCall.Holds (call : ProcedureCall) (name : String) (inputs : List (String × Value))
    (outputs : List OutputParameter) : Prop where
  name_eq : call.name = name
  entries_eq : call.parameters.entries = Entries.putAll [] inputs
  outputs_eq : call.outputs = outputs

theorem ProcedureCall.Holds.names_eq (h : call.Holds name inputs outputs) :
    call.parameters.names = (inputs.map (·.1)).eraseDups := by
  have nothing : ([] : List (String × Value)).map (·.1) = ([] : List String).eraseDups := rfl
  rw [Parameters.names, h.entries_eq, Entries.names_putAll nothing, List.nil_append]

theorem ProcedureCall.Holds.merge (h : call.Holds name inputs outputs) (parameters : Parameters) :
    { call with parameters := call.parameters.merge parameters }.Holds name (inputs ++ parameters.entries)
      outputs where
  name_eq := h.name_eq
  entries_eq := by
    simp only [Parameters.merge, h.entries_eq, Entries.putAll, List.foldl_append]
  outputs_eq := h.outputs_eq

namespace Session

/-- The session is calling a procedure, with what was given to it so far. -/
def Calls (s : Session) (name : String) (inputs : List (String × Value)) (outputs : List OutputParameter) :
    Prop :=
  ∃ call, s.procedure? = some call ∧ call.Holds name inputs outputs

theorem Calls.of_procedure?_eq (h : s.Calls name inputs outputs) (same : s'.procedure? = s.procedure?) :
    s'.Calls name inputs outputs := by
  obtain ⟨call, held, holds⟩ := h
  exact ⟨call, same.trans held, holds⟩

theorem Calls.merge (h : s.Calls name inputs outputs) (parameters : Parameters) :
    (s.updateCall fun call => { call with parameters := call.parameters.merge parameters }).Calls name
      (inputs ++ parameters.entries) outputs := by
  obtain ⟨call, held, holds⟩ := h
  refine ⟨{ call with parameters := call.parameters.merge parameters }, ?_, holds.merge parameters⟩
  simp only [updateCall, held, Option.getD_some]

theorem procedure?_bindAll (s : Session) (parameters : Parameters) :
    (s.bindAll parameters).2.procedure? = s.procedure? := by
  unfold bindAll
  split <;> rfl

theorem procedure?_addCondition (s : Session) (keyword condition : String) (parameters : Parameters) :
    (s.addCondition keyword condition parameters).2.procedure? = s.procedure? := by
  have bound := s.procedure?_bindAll parameters
  unfold addCondition
  split
  next binding =>
    rw [binding] at bound
    exact bound
  next binding =>
    rw [binding] at bound
    exact bound

end Session

theorem Clause.calls_perform (h : s.Calls name inputs outputs) (clause : Clause) :
    (clause.perform s).2.Calls name (inputs ++ clause.inputs) (outputs ++ clause.outputs) := by
  cases clause with
  | withParameter parameter value =>
    obtain ⟨call, held, holds⟩ := h
    refine ⟨{ call with parameters := call.parameters.bind parameter value }, ?_, holds.name_eq, ?_, ?_⟩
    · simp only [perform, Session.updateCall, held, Option.getD_some]
    · simp only [Parameters.bind, Clause.inputs, holds.entries_eq, Entries.putAll, List.foldl_append,
        List.foldl_cons, List.foldl_nil]
    · simp only [Clause.outputs, List.append_nil, holds.outputs_eq]
  | withParameters parameters =>
    simp only [Clause.outputs, List.append_nil]
    exact h.merge parameters
  | withFieldsOf payload =>
    simp only [perform, Clause.inputs, Clause.outputs, List.append_nil]
    cases payload.toJson.bind Parameters.ofJson with
    | ok parameters => exact h.merge parameters
    | error failure =>
      rw [List.append_nil]
      exact h
  | withOutputs declared =>
    obtain ⟨call, held, holds⟩ := h
    refine ⟨{ call with outputs := call.outputs ++ declared }, ?_, holds.name_eq, ?_, ?_⟩
    · simp only [perform, Session.updateCall, held, Option.getD_some]
    · simp only [Clause.inputs, List.append_nil, holds.entries_eq]
    · simp only [Clause.outputs, holds.outputs_eq]
  | joinOn condition parameters =>
    simp only [Clause.inputs, Clause.outputs, List.append_nil]
    exact h.of_procedure?_eq (s.procedure?_addCondition _ _ _)
  | filter condition parameters =>
    simp only [Clause.inputs, Clause.outputs, List.append_nil]
    exact h.of_procedure?_eq (s.procedure?_addCondition _ _ _)
  | having condition parameters =>
    simp only [Clause.inputs, Clause.outputs, List.append_nil]
    exact h.of_procedure?_eq (s.procedure?_addCondition _ _ _)
  | insertValues parameters =>
    simp only [perform, Clause.inputs, Clause.outputs, List.append_nil]
    split
    · exact h
    · exact h.of_procedure?_eq (Session.procedure?_bindAll _ _)
  | updateSet parameters =>
    simp only [perform, Clause.inputs, Clause.outputs, List.append_nil]
    split
    · exact h
    · exact h.of_procedure?_eq (Session.procedure?_bindAll _ _)
  | _ =>
    simp only [Clause.inputs, Clause.outputs, List.append_nil]
    exact h.of_procedure?_eq rfl

namespace Statement

theorem calls_addAll? (h : t.session.Calls name inputs outputs)
    (added : t.addAll? clauses = some (.ok longer, left)) :
    longer.session.Calls name (inputs ++ clauses.flatMap Clause.inputs)
      (outputs ++ clauses.flatMap Clause.outputs) := by
  induction clauses generalizing t inputs outputs with
  | nil =>
    rw [addAll?_nil_eq_ok added]
    simpa only [List.flatMap_nil, List.append_nil] using h
  | cons clause rest ih =>
    obtain ⟨next, _, _, later⟩ := addAll?_cons_eq_ok added
    simp only [List.flatMap_cons, ← List.append_assoc]
    exact ih (clause.calls_perform h) later

/-- A chain that calls a procedure comes to hold all that its clauses gave. -/
theorem calls_written (written : (start s (.procedure name)).addAll? clauses = some (.ok t, left)) :
    t.session.Calls name (clauses.flatMap Clause.inputs) (clauses.flatMap Clause.outputs) := by
  have started : (start s (.procedure name)).session.Calls name [] [] := ⟨{ name }, rfl, rfl, rfl, rfl⟩
  exact calls_addAll? started written

end Statement

end TypedSql
