import TypedSql.Proofs.SqlServer.BatchText
import TypedSql.Proofs.SqlServer.Hygiene
import TypedSql.Proofs.SqlServer.Reach
import TypedSql.Proofs.SqlServer.Substitution
import TypedSql.Proofs.Statement.Called

namespace TypedSql

open Placeholder SqlServer

variable {τ α : Type} {s left : Session} {t : Statement} {name : String} {clauses : List Clause}

namespace SqlServer

/-- Two names are not the same to the server, which does not look at the case of letters. -/
def Apart (name name' : String) : Prop := Name.sameIgnoringCase name name' = false

instance (name name' : String) : Decidable (Apart name name') := inferInstanceAs (Decidable (_ = _))

/-- A batch that calls a procedure takes no name twice. -/
structure WellFormed (procedure : String) (sent : Request) : Prop where
  declares_once : (declaredIn sent.sql).Pairwise Apart
  declares_free : ∀ declared ∈ declaredIn sent.sql, ∀ argument ∈ sent.named, Apart declared argument.1
  passes_once : (passedIn procedure sent.sql).Pairwise Apart

theorem wellFormed_iff {procedure : String} {sent : Request} :
    WellFormed procedure sent ↔
      (declaredIn sent.sql).Pairwise Apart ∧
        (∀ declared ∈ declaredIn sent.sql, ∀ argument ∈ sent.named, Apart declared argument.1) ∧
          (passedIn procedure sent.sql).Pairwise Apart :=
  ⟨fun h => ⟨h.declares_once, h.declares_free, h.passes_once⟩, fun ⟨once, free, passes⟩ => ⟨once, free, passes⟩⟩

instance (procedure : String) (sent : Request) : Decidable (WellFormed procedure sent) :=
  decidable_of_iff' _ wellFormed_iff

theorem Request.forall_mem_named {sql : String} {parameters : Parameters} {p : String → Prop} :
    (∀ argument ∈ (Request.new sql parameters).named, p argument.1) ↔
      ∀ position, 1 ≤ position → position ≤ parameters.size → p (positional position) := by
  constructor
  · intro all position first last
    obtain ⟨argument, mem⟩ := Request.named_position.mpr ⟨first, last⟩
    exact all _ mem
  · intro all argument mem
    obtain ⟨⟨value, position⟩, _, rfl⟩ := List.mem_map.mp mem
    obtain ⟨first, last⟩ := Request.named_position.mp ⟨value, mem⟩
    exact all position first last

theorem Identified.wellFormed_iff {parameters : Parameters} {outputs : List OutputParameter}
    (h : Identified name parameters outputs) (present : outputs ≠ []) (countRows : Bool) :
    WellFormed name (.new (outputBatch name parameters outputs countRows) parameters) ↔
      (parameters.names ++ outputs.map (·.variableName)).Pairwise Apart ∧
        ∀ output ∈ outputs, ∀ position, 1 ≤ position → position ≤ parameters.size →
          Apart output.variableName (positional position) := by
  rw [SqlServer.wellFormed_iff]
  simp only [Request.forall_mem_named]
  simp only [Request.new, h.declaredIn_outputBatch present, h.passedIn_outputBatch present,
    List.forall_mem_map]
  refine ⟨fun ⟨_, free, passes⟩ => ⟨passes, free⟩, fun ⟨passes, free⟩ => ⟨?_, free, passes⟩⟩
  exact (List.pairwise_append.mp passes).2.1

end SqlServer

namespace Statement

/-- A chain that calls a procedure with outputs is sent as one batch, if the server is to be reached at
all. The batch declares a variable for each declaration of an output and passes each input once, then each
output as often as it was declared; it takes no name twice exactly if neither the chain does, and if no
output is called like one of the positions that the inputs are sent under. -/
theorem sent_wellFormed_iff (written : (start s (.procedure name)).addAll? clauses = some (.ok t, left))
    (present : clauses.flatMap Clause.outputs ≠ []) (line : '\n' ∉ name.toList)
    (inputs : ∀ input ∈ clauses.flatMap Clause.inputs, Name.IsIdentifier input.1)
    (outputs : ∀ output ∈ clauses.flatMap Clause.outputs, Name.IsIdentifier output.name)
    {terminal : Terminal α} (admitted : terminal.admitted t.stage = true) (server : Server τ)
    (w : World (State (τ × List Request))) :
    let given := ((clauses.flatMap Clause.inputs).map (·.1)).eraseDups
    let received := (clauses.flatMap Clause.outputs).map (·.variableName)
    ∃ sent,
      ((t.finish (layer server.recorded) terminal w).2.layer.requests = w.layer.requests ∨
        (t.finish (layer server.recorded) terminal w).2.layer.requests = w.layer.requests ++ [sent]) ∧
      (∀ state, Reaches server.recorded t.session w state →
        (t.finish (layer server.recorded) terminal w).2.layer.requests = w.layer.requests ++ [sent]) ∧
      declaredIn sent.sql = received ∧ passedIn name sent.sql = given ++ received ∧
      (∀ position, (∃ argument, (positional position, argument) ∈ sent.named) ↔
        1 ≤ position ∧ position ≤ given.length) ∧
      (WellFormed name sent ↔
        (given ++ received).Pairwise Apart ∧
          ∀ variableName ∈ received, ∀ position, 1 ≤ position → position ≤ given.length →
            Apart variableName (positional position)) := by
  intro given received
  obtain ⟨call, held, holds⟩ := calls_written written
  have subject : terminal.subject = .procedure := by
    rw [Terminal.subject_of_admitted admitted, isProcedure_addAll? written]
    rfl
  have comes : t.session.command (t.session.timeout? <|> w.timeout?) terminal.subject =
      .ok (call.command (t.session.timeout? <|> w.timeout?)) := by
    simp only [subject, Session.command, held]
  have names : call.parameters.names = given := holds.names_eq
  have size : call.parameters.size = given.length := by
    rw [← names, Parameters.names, List.length_map, Parameters.size]
  have identified : Identified name call.parameters call.outputs := by
    refine ⟨line, fun input mem => ?_, fun output mem => ?_⟩
    · rw [names, List.mem_eraseDups] at mem
      obtain ⟨entry, there, rfl⟩ := List.mem_map.mp mem
      exact inputs entry there
    · exact outputs output (holds.outputs_eq ▸ mem)
  have declared : call.outputs ≠ [] := by
    rw [holds.outputs_eq]
    exact present
  have batch : Request.ofCommand (call.command (t.session.timeout? <|> w.timeout?)) terminal.countsRows =
      .new (outputBatch name call.parameters call.outputs terminal.countsRows) call.parameters := by
    simp [Request.ofCommand, commandText, ProcedureCall.command, declared, holds.name_eq]
  have receives : call.outputs.map (·.variableName) = received := by rw [holds.outputs_eq]
  refine ⟨_, requests_finish_command comes server, fun state => requests_finish_reached comes, ?_⟩
  rw [batch]
  refine ⟨?_, ?_, ?_, ?_⟩
  · exact (identified.declaredIn_outputBatch declared _).trans receives
  · exact (identified.passedIn_outputBatch declared _).trans (by rw [names, receives])
  · intro position
    rw [Request.named_position, size]
  · rw [identified.wellFormed_iff declared, names, size, receives, ← receives]
    simp only [List.forall_mem_map]

/-- Inputs and outputs of different names, none of which reads as a position, on a session whose server
is there. -/
theorem sent_wellFormed :
    let clauses : List Clause := [.withParameter "name" (.text "Ada"), .withParameter "@name" (.text "Eva"),
      .withOutputs [.new "id" .int32, .withSize "@message" .string 50]]
    let w : World (State (Unit × List Request)) := ⟨⟨[], (), []⟩, 0, none, []⟩
    ∃ t left, (start (.new "") (.procedure "dbo.CreateUser")).addAll? clauses = some (.ok t, left) ∧
      clauses.flatMap Clause.outputs ≠ [] ∧ '\n' ∉ "dbo.CreateUser".toList ∧
      (∀ input ∈ clauses.flatMap Clause.inputs, Name.IsIdentifier input.1) ∧
      (∀ output ∈ clauses.flatMap Clause.outputs, Name.IsIdentifier output.name) ∧
      (Terminal.callExecute : Terminal Unit).admitted t.stage = true ∧
      ∃ sent, (t.finish (layer Server.mute.recorded) (.callExecute : Terminal Unit) w).2.layer.requests = [sent] ∧
        passedIn "dbo.CreateUser" sent.sql = ["@name", "@id", "@message"] ∧
        WellFormed "dbo.CreateUser" sent := by
  intro clauses w
  obtain ⟨t, left, written, admitted, idle, settings, understood⟩ : ∃ t left,
      (start (.new "") (.procedure "dbo.CreateUser")).addAll? clauses = some (.ok t, left) ∧
        (Terminal.callExecute : Terminal Unit).admitted t.stage = true ∧ t.session.transaction? = none ∧
        ∃ settings, readConnectionString t.session.target = .ok settings := ⟨_, _, rfl, rfl, rfl, _, rfl⟩
  have present : clauses.flatMap Clause.outputs ≠ [] := by decide
  have line : '\n' ∉ "dbo.CreateUser".toList := by decide
  have inputs : ∀ input ∈ clauses.flatMap Clause.inputs, Name.IsIdentifier input.1 := by decide +kernel
  have outputs : ∀ output ∈ clauses.flatMap Clause.outputs, Name.IsIdentifier output.name := by decide +kernel
  have reaches : Reaches Server.mute.recorded t.session w ((), []) := .alone idle understood rfl
  obtain ⟨sent, _, gets, _, passed, _, wellFormed⟩ :=
    sent_wellFormed_iff written present line inputs outputs admitted Server.mute w
  refine ⟨t, left, written, present, line, inputs, outputs, admitted, sent, gets _ reaches, ?_,
    wellFormed.mpr ⟨?_, ?_⟩⟩
  · rw [passed]
    decide +kernel
  · decide +kernel
  · intro received mem position first last
    have only : position = 1 := Nat.le_antisymm last first
    subst only
    revert received
    decide +kernel

/-- The clauses go in, and what they are sent as takes a name twice. -/
def SentIllFormed (name : String) (clauses : List Clause) : Prop :=
  ∃ t left command, (start (.new "") (.procedure name)).addAll? clauses = some (.ok t, left) ∧
    t.session.command none .procedure = .ok command ∧ ¬WellFormed name (.ofCommand command true)

/-- An output that is declared twice, an output called like the position of an input, an output called
like an input. -/
theorem sent_mistakes_names :
    SentIllFormed "dbo.CreateUser" [.withOutputs [.new "id" .int32], .withOutputs [.new "@id" .int32]] ∧
      SentIllFormed "dbo.Compute" [.withParameter "input" (.int 10), .withOutputs [.new "p1" .int32],
        .withOutputs [.new "@p2" .int32]] ∧
      SentIllFormed "dbo.Compute" [.withParameter "total" (.int 10), .withOutputs [.new "total" .int32]] := by
  refine ⟨⟨_, _, _, rfl, rfl, ?_⟩, ⟨_, _, _, rfl, rfl, ?_⟩, ⟨_, _, _, rfl, rfl, ?_⟩⟩
  all_goals decide +kernel

end Statement

end TypedSql
