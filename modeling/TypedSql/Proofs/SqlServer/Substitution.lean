import TypedSql.Proofs.Placeholder.Spelled
import TypedSql.Proofs.SqlServer.Requests
import TypedSql.Proofs.Statement.Bound

namespace TypedSql

open Placeholder SqlServer Text

variable {τ α : Type} {s left : Session} {opening : Opening} {clauses : List Clause} {t : Statement}

/-- The request that a statement as written is sent as. -/
def Statement.request (t : Statement) : Request :=
  .new (substitute t.session.query t.session.parameters.names) t.session.parameters

theorem Statement.requests_finish (t : Statement) {terminal : Terminal α} (text : terminal.subject = .written)
    (server : Server τ) (w : World (State (τ × List Request))) :
    (t.finish (layer server.recorded) terminal w).2.layer.requests = w.layer.requests ∨
      (t.finish (layer server.recorded) terminal w).2.layer.requests = w.layer.requests ++ [t.request] := by
  have comes : t.session.command (t.session.timeout? <|> w.timeout?) terminal.subject =
      .ok (.statement t.session.query t.session.parameters (t.session.timeout? <|> w.timeout?)) := by
    rw [text]
    rfl
  exact requests_finish_command comes server

/-- A statement whose clauses all went in is sent as one request at most, its tokens in their places and
its values as they were bound. A variable spelled as a name that a clause bound carries the value of that
clause exactly if the first bound name that agrees with it up to case was bound alike; so it does where no
other bound name agrees with it. -/
theorem Statement.request_carries (written : (start s opening).addAll? clauses = some (.ok t, left))
    {terminal : Terminal α} (text : terminal.subject = .written) (server : Server τ)
    (w : World (State (τ × List Request))) :
    ((t.finish (layer server.recorded) terminal w).2.layer.requests = w.layer.requests ∨
        (t.finish (layer server.recorded) terminal w).2.layer.requests = w.layer.requests ++ [t.request]) ∧
      utf8 t.request.sql =
        (scanned t.session.query).flatMap (Token.render t.session.parameters.names) ∧
      t.request.arguments = t.session.parameters.values.map Argument.ofValue ∧
      ∀ clause ∈ clauses, ∀ pair ∈ clause.bound, ∀ token ∈ scanned t.session.query, token.Spells pair.1 →
        (token.Carries t.session.parameters pair.2 ↔
          ∀ first, agreeing? pair.1 (clauses.flatMap Clause.bound) = some first → first.2.Alike pair.2) ∧
        ((∀ other ∈ clauses.flatMap Clause.bound,
            Name.sameIgnoringCase other.1 pair.1 = true → other.1 = pair.1) →
          token.Carries t.session.parameters pair.2) := by
  have collects := collects_written written
  refine ⟨t.requests_finish text server w, (substitute?_spec _ _).1, rfl, ?_⟩
  intro clause clause_mem pair pair_mem token _ spells
  have mem : pair ∈ clauses.flatMap Clause.bound := List.mem_flatMap.mpr ⟨clause, clause_mem, pair_mem⟩
  have exactly := spells.carries_iff collects (List.mem_map_of_mem mem) pair.2
  refine ⟨exactly, fun distinct => exactly.mpr ?_⟩
  intro first found
  exact alike_of_distinct collects mem distinct found

/-- A server that admits everyone and has nothing to say. -/
def Server.mute : Server Unit := ⟨fun _ s => (.ok (), s), fun _ s => (.reply {}, s)⟩

theorem Statement.request_carries_distinct : ∃ t left,
    (start (.new "") (.update "T")).addAll?
        [.updateSet (Parameters.empty.bind "Status" (.int 1)),
          .filter "Id = @Id" (Parameters.empty.bind "Id" (.int 2))] = some (.ok t, left) ∧
      (Terminal.execute : Terminal Unit).subject = .written ∧
      utf8 t.request.sql = utf8 "UPDATE T SET Status = @P1 WHERE Id = @P2" ∧
      ∀ token ∈ scanned t.session.query, token.Spells "@Id" →
        token.Carries t.session.parameters (.int 2) := by
  obtain ⟨t, left, written, query, names⟩ : ∃ t left,
      (start (.new "") (.update "T")).addAll?
          [.updateSet (Parameters.empty.bind "Status" (.int 1)),
            .filter "Id = @Id" (Parameters.empty.bind "Id" (.int 2))] = some (.ok t, left) ∧
        t.session.query = "UPDATE T SET Status = @Status WHERE Id = @Id" ∧
        t.session.parameters.names = ["@Status", "@Id"] := by
    refine ⟨_, _, rfl, ?_, rfl⟩
    decide +kernel
  obtain ⟨_, sql, _, carries⟩ :=
    @request_carries _ Unit _ _ _ _ _ written .execute rfl Server.mute ⟨⟨[], (), []⟩, 0, none, []⟩
  refine ⟨t, left, written, rfl, ?_, ?_⟩
  · rw [sql, query, names]
    decide +kernel
  · intro token mem spells
    refine (carries _ (List.mem_cons_of_mem _ List.mem_cons_self) ("@Id", .int 2) ?_ token mem spells).2 ?_
    · exact List.mem_cons_self
    · decide +kernel

/-- Of two bound names that agree up to case the first is sent for both. -/
theorem Statement.request_mistakes_case : ∃ t left,
    (start (.new "") (.update "T")).addAll?
        [.updateSet (Parameters.empty.bind "Status" (.int 1)),
          .filter "status = @status" (Parameters.empty.bind "status" (.int 2))] = some (.ok t, left) ∧
      t.request.sql = "UPDATE T SET Status = @P1 WHERE status = @P1" ∧
      t.request.arguments = [.bigint 1, .bigint 2] ∧
      ∃ token ∈ scanned t.session.query, token.Spells "@status" ∧
        ¬token.Carries t.session.parameters (.int 2) := by
  refine ⟨_, _, rfl, ?_, rfl, ⟨.variable, utf8 "@status"⟩, ?_, ⟨rfl, rfl⟩, ?_⟩
  · decide +kernel
  · decide +kernel
  · intro ⟨position, held, rendered, there, alike⟩
    have first : Token.render ["@Status", "@status"] ⟨.variable, utf8 "@status"⟩ =
        utf8 (positional (0 + 1)) := by decide +kernel
    have zero : position = 0 :=
      Nat.succ.inj (positional_inj.mp (utf8_inj.mp (rendered.symm.trans first)))
    subst zero
    rw [← Option.some.inj there] at alike
    rcases alike with equal | same
    · simp at equal
    · exact absurd same (by decide)

end TypedSql
