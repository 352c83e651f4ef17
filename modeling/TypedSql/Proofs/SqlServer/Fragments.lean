import TypedSql.Proofs.Placeholder.Junction
import TypedSql.Proofs.SqlServer.Substitution
import TypedSql.Proofs.Statement.Mode

namespace TypedSql

open Placeholder SqlServer

/-- The text that an opening starts with. -/
def Opening.text (opening : Opening) : String := (opening.perform (.new "")).query

/-- What a clause puts behind the text, piece by piece. -/
def Clause.pieces : Clause → List String
  | .insertValues parameters =>
    [" (" ++ listed (parameters.names.map Name.bare) ++ ") ", " VALUES (" ++ listed parameters.names ++ ")"]
  | clause => [clause.fragment]

/-- What a text is made of: its front, as the first clauses edit it, and the pieces of all other clauses. -/
def fragments (opening : Opening) (clauses : List Clause) : List String :=
  (clauses.takeWhile Clause.editsFront).foldl Clause.rewrite opening.text ::
    (clauses.dropWhile Clause.editsFront).flatMap Clause.pieces

variable {τ α : Type} {s left : Session} {opening : Opening} {clause : Clause} {clauses : List Clause}
  {t : Statement} {stage next last : Stage} {piece : String}

theorem Opening.query?_perform (mode : opening.stage.isProcedure = false) (s : Session) :
    (opening.perform s).query? = some opening.text := by
  cases opening with
  | procedure name => cases mode
  | _ => rfl

namespace Clause

theorem join_pieces (clause : Clause) : String.join clause.pieces = clause.fragment := by
  cases clause with
  | insertValues parameters =>
    simp only [fragment, pieces, valuesText, String.join_cons, String.join_nil, String.append_empty,
      String.append_assoc]
  | _ => simp only [pieces, String.join_cons, String.join_nil, String.append_empty]

theorem join_flatMap_pieces (clauses : List Clause) :
    String.join (clauses.flatMap pieces) = String.join (clauses.map fragment) := by
  induction clauses with
  | nil => rfl
  | cons clause rest ih =>
    rw [List.flatMap_cons, String.join_append, join_pieces, ih, List.map_cons, String.join_cons]

theorem blank_of_mem_pieces (mode : clause.isCall = false) (behind : clause.editsFront = false)
    (mem : piece ∈ clause.pieces) : piece.toList.head? = some ' ' := by
  cases clause with
  | distinct => cases behind
  | top rows => cases behind
  | withParameter name value => cases mode
  | withParameters parameters => cases mode
  | withFieldsOf payload => cases mode
  | withOutputs outputs => cases mode
  | insertValues parameters =>
    simp only [pieces, List.mem_cons, List.not_mem_nil, or_false] at mem
    rcases mem with rfl | rfl <;> simp [String.toList_append]
  | _ =>
    rw [List.mem_singleton.mp mem]
    simp [fragment, setText, String.toList_append]

end Clause

namespace Stage

theorem editsFront_dropWhile (h : stage.after? clauses = some last) :
    ∀ clause ∈ clauses.dropWhile Clause.editsFront, clause.editsFront = false := by
  induction clauses generalizing stage with
  | nil => exact fun _ mem => absurd mem List.not_mem_nil
  | cons clause rest ih =>
    obtain ⟨next, step, later⟩ := after?_cons h
    cases own : clause.editsFront with
    | true =>
      rw [List.dropWhile_cons_of_pos own]
      exact ih later
    | false =>
      rw [List.dropWhile_cons_of_neg (by simp [own])]
      exact List.forall_mem_cons.mpr ⟨own, editsFront_eq_false later (isFront_next?_eq_false step own)⟩

end Stage

namespace Statement

theorem query?_written (written : (start s opening).addAll? clauses = some (.ok t, left))
    (mode : opening.stage.isProcedure = false) :
    t.session.query? = some (String.join (fragments opening clauses)) := by
  have behind := Stage.editsFront_dropWhile (after?_addAll? written)
  have query := query?_addAll? (opening.query?_perform mode s) written
  rw [← List.takeWhile_append_dropWhile (p := Clause.editsFront) (l := clauses), List.foldl_append,
    Clause.foldl_rewrite_eq_append behind, ← Clause.join_flatMap_pieces] at query
  rw [query, fragments, String.join_cons]

theorem blank_of_mem_fragments (written : (start s opening).addAll? clauses = some (.ok t, left))
    (mode : opening.stage.isProcedure = false) :
    ∀ f ∈ (fragments opening clauses).tail, f.toList.head? = some ' ' := by
  have stages := after?_addAll? written
  intro f mem
  obtain ⟨clause, there, piece⟩ := List.mem_flatMap.mp mem
  have own : clause.isCall = opening.stage.isProcedure :=
    Stage.isCall_of_after? stages clause ((List.dropWhile_suffix _).subset there)
  exact Clause.blank_of_mem_pieces (own.trans mode) (Stage.editsFront_dropWhile stages clause there) piece

/-- Behind a text that the scan leaves outside every quoted region and every comment, what begins with a
blank is cut and replaced as it would be alone. So a statement as it is written, closed piece by piece, is
sent with its pieces replaced one by one: they are cut into the same tokens wherever they stand, and none
of them changes what becomes of another. The last may leave a quote or a comment open. -/
theorem request_piecewise :
    (∀ (bound : List String) (sql fragment : String), (Scan.run sql bound {}).region = .plain →
        fragment.toList.head? = some ' ' →
        scanned (sql ++ fragment) = scanned sql ++ scanned fragment ∧
          substitute (sql ++ fragment) bound = substitute sql bound ++ substitute fragment bound) ∧
      ∀ (s : Session) (opening : Opening) (clauses : List Clause) (t : Statement) (left : Session),
        opening.stage.isProcedure = false → (start s opening).addAll? clauses = some (.ok t, left) →
        t.session.query? = some (String.join (fragments opening clauses)) ∧
        (∀ f ∈ (fragments opening clauses).tail, f.toList.head? = some ' ') ∧
        ((∀ f ∈ (fragments opening clauses).dropLast, (Scan.run f t.session.parameters.names {}).region = .plain) →
          scanned t.session.query = (fragments opening clauses).flatMap scanned ∧
          t.request.sql =
            String.join ((fragments opening clauses).map (substitute · t.session.parameters.names)) ∧
          ∀ (terminal : Terminal α), terminal.admitted t.stage = true →
            ∀ (server : Server τ) (w : World (State (τ × List Request))),
              (t.finish (layer server.recorded) terminal w).2.layer.requests = w.layer.requests ∨
              (t.finish (layer server.recorded) terminal w).2.layer.requests = w.layer.requests ++ [t.request]) := by
  refine ⟨fun bound sql fragment plain blank => ?_, ?_⟩
  · have closed : Closed sql := (closed_iff sql bound).mp plain
    have apart := unjoined_of_blank blank sql
    exact ⟨closed.scanned_append apart, closed.substitute_append apart bound⟩
  · intro s opening clauses t left mode written
    have query := query?_written written mode
    have blank := blank_of_mem_fragments written mode
    refine ⟨query, blank, fun plain => ?_⟩
    have cut : scanned t.session.query = (fragments opening clauses).flatMap scanned := by
      rw [Session.query, query]
      exact scanned_join (fun f mem => (closed_iff f _).mp (plain f mem)) blank
    refine ⟨cut, substitute_of_scanned cut _, fun terminal admitted server w => ?_⟩
    apply t.requests_finish
    rw [Terminal.subject_of_admitted admitted, isProcedure_addAll? written]
    exact if_neg (by simp [start, mode])

/-- A closed quotation, a closed comment and a comment at the end, each with a bound name in it. -/
theorem request_piecewise_quoted :
    let opening := Opening.select ["[@id]"]
    let clauses : List Clause :=
      [.top 1, .fromTable "T" none,
        .filter "a = 'it''s @id' /* @id */ AND b = @id" (Parameters.empty.bind "id" (.int 1)), .orderBy ["b -- @id"]]
    ∃ t left, (start (.new "") opening).addAll? clauses = some (.ok t, left) ∧
      (∀ f ∈ (fragments opening clauses).dropLast, Closed f) ∧
      t.request.sql = "SELECT TOP 1 [@id] FROM T WHERE a = 'it''s @id' /* @id */ AND b = @P1 ORDER BY b -- @id" := by
  intro opening clauses
  obtain ⟨t, left, written, names⟩ : ∃ t left, (start (.new "") opening).addAll? clauses = some (.ok t, left) ∧
      t.session.parameters.names = ["@id"] := ⟨_, _, rfl, rfl⟩
  have closed : ∀ f ∈ (fragments opening clauses).dropLast, Closed f := by decide +kernel
  obtain ⟨_, _, piecewise⟩ :=
    (@request_piecewise Unit Unit).2 (.new "") opening clauses t left rfl written
  obtain ⟨_, sql, _⟩ := piecewise fun f mem => (closed_iff f _).mpr (closed f mem)
  refine ⟨t, left, written, closed, sql.trans ?_⟩
  rw [names]
  decide +kernel

end Statement

end TypedSql
