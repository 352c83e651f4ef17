import TypedSql.Proofs.Statement.Mode
import TypedSql.Proofs.Statement.Sentence

namespace TypedSql

namespace Sentence

/-! The text of a sentence, part by part. -/

def optionalText {α : Type} (text : α → String) (part? : Option α) : String := part?.elim "" text

def hintText (noLock : Bool) : String := if noLock then " WITH (NOLOCK)" else ""

def Source.text (s : Source) : String := s.table ++ optionalText (" " ++ ·) s.name?

def Joined.text (j : Joined) : String :=
  " " ++ j.kind.keyword ++ " JOIN " ++ j.source.text ++ " ON " ++ j.on.text ++ hintText j.noLock

def Condition.whereText (c : Condition) : String := " WHERE " ++ c.text

def Condition.havingText (c : Condition) : String := " HAVING " ++ c.text

def Grouping.text (g : Grouping) : String :=
  " GROUP BY " ++ listed g.columns ++ optionalText Condition.havingText g.having?

def Direction.text : Direction → String
  | .ascending => " ASC"
  | .descending => " DESC"

def Order.text (o : Order) : String :=
  " ORDER BY " ++ listed o.columns ++ optionalText Direction.text o.direction?

def Tail.text (e : Tail) : String :=
  optionalText Condition.whereText e.where? ++ optionalText Grouping.text e.grouping? ++
    optionalText Order.text e.order?

def Body.text (b : Body) : String :=
  " FROM " ++ b.source.text ++ hintText b.noLock ++ optionalText Joined.text b.join? ++ b.tail.text

def Selection.columns (s : Selection) : String := s.columns?.elim "*" listed

/-- The front of a selection. A limit without a DISTINCT goes behind the DISTINCT that the columns begin
with, if they do. -/
def Selection.head (s : Selection) : String :=
  match s.distinct, s.top? with
  | false, none => "SELECT " ++ s.columns
  | true, none => "SELECT DISTINCT " ++ s.columns
  | true, some rows => "SELECT DISTINCT TOP " ++ toString rows ++ " " ++ s.columns
  | false, some rows =>
    match Keyword.behindDistinct? s.columns with
    | some rest => "SELECT DISTINCT TOP " ++ toString rows ++ rest
    | none => "SELECT TOP " ++ toString rows ++ " " ++ s.columns

def valuesText (values : Parameters) : String :=
  " (" ++ ", ".intercalate (values.names.map Name.bare) ++ ")  VALUES (" ++ ", ".intercalate values.names ++ ")"

def setText (set : Parameters) : String :=
  " SET " ++ ", ".intercalate (set.names.map fun name => Name.bare name ++ " = " ++ name)

def text : Sentence → String
  | .select s => s.head ++ s.body.text
  | .insert table values _ => "INSERT INTO " ++ table ++ valuesText values
  | .update table set _ where? =>
    "UPDATE " ++ table ++ setText set ++ optionalText Condition.whereText where?
  | .delete table where? => "DELETE FROM " ++ table ++ optionalText Condition.whereText where?

/-- Clauses that write a fragment behind whatever text they are added to. -/
def Writes (clauses : List Clause) (fragment : String) : Prop :=
  ∀ text, clauses.foldl Clause.rewrite text = text ++ fragment

namespace Writes

variable {clauses clauses' : List Clause} {clause : Clause} {fragment fragment' : String}

theorem nil : Writes [] "" := fun text => by rw [List.foldl_nil, String.append_empty]

theorem cons (first : ∀ text, clause.rewrite text = text ++ fragment) (h : Writes clauses fragment') :
    Writes (clause :: clauses) (fragment ++ fragment') := by
  intro text
  rw [List.foldl_cons, first, h, String.append_assoc]

theorem append (h : Writes clauses fragment) (h' : Writes clauses' fragment') :
    Writes (clauses ++ clauses') (fragment ++ fragment') := by
  intro text
  rw [List.foldl_append, h, h', String.append_assoc]

theorem single (first : ∀ text, clause.rewrite text = text ++ fragment) : Writes [clause] fragment := first

theorem optional {α : Type} {write : α → List Clause} {part : α → String}
    (h : ∀ a, Writes (write a) (part a)) (part? : Option α) :
    Writes (Sentence.optional write part?) (optionalText part part?) := by
  cases part? with
  | none => exact nil
  | some a => exact h a

end Writes

theorem Source.text_eq (s : Source) : Clause.tableSource s.table s.name? = s.text := by
  unfold Source.text
  cases s.name? with
  | none => exact String.append_empty.symm
  | some name => exact String.append_assoc

theorem writes_hint (noLock : Bool) : Writes (hintClauses noLock) (hintText noLock) := by
  cases noLock with
  | false => exact .nil
  | true => exact .single fun _ => rfl

theorem Joined.writes (j : Joined) : Writes j.clauses j.text := by
  have join : ∀ text, (Clause.join j.source.table j.source.name? j.kind).rewrite text =
      text ++ (" " ++ j.kind.keyword ++ " JOIN " ++ j.source.text) := by
    intro text
    rw [← j.source.text_eq]
    rfl
  have on : ∀ text, (Clause.joinOn j.on.text j.on.parameters).rewrite text = text ++ (" ON " ++ j.on.text) :=
    fun _ => rfl
  have whole := (Writes.cons join (.single on)).append (writes_hint j.noLock)
  simpa only [clauses, text, String.append_assoc] using whole

theorem Condition.writes (c : Condition) : Writes c.clauses c.whereText := .single fun _ => rfl

theorem Condition.writes_having (c : Condition) : Writes c.havingClauses c.havingText := .single fun _ => rfl

theorem Grouping.writes (g : Grouping) : Writes g.clauses g.text :=
  .cons (fun _ => rfl) (.optional Condition.writes_having g.having?)

theorem Direction.writes (d : Direction) : Writes d.clauses d.text := by
  cases d <;> exact .single fun _ => rfl

theorem Order.writes (o : Order) : Writes o.clauses o.text :=
  .cons (fun _ => rfl) (.optional Direction.writes o.direction?)

theorem Tail.writes (e : Tail) : Writes e.clauses e.text := by
  have whole := (Writes.optional Condition.writes e.where?).append
    ((Writes.optional Grouping.writes e.grouping?).append (.optional Order.writes e.order?))
  simpa only [clauses, text, String.append_assoc] using whole

theorem Body.writes (b : Body) : Writes b.clauses b.text := by
  have source : ∀ text, b.source.clause.rewrite text = text ++ (" FROM " ++ b.source.text) := by
    intro text
    rw [← b.source.text_eq]
    rfl
  have whole := Writes.cons source ((writes_hint b.noLock).append
    ((Writes.optional Joined.writes b.join?).append b.tail.writes))
  simpa only [clauses, text, String.append_assoc] using whole

/-- The first clauses of a selection edit its front, whatever its columns are. -/
theorem Selection.foldl_head (s : Selection) :
    (distinctClauses s.distinct ++ optional topClauses s.top?).foldl Clause.rewrite ("SELECT " ++ s.columns) =
      s.head := by
  unfold Selection.head
  cases s.distinct with
  | false =>
    cases s.top? with
    | none => rfl
    | some rows => exact Keyword.editFirst_addTop rows s.columns
  | true =>
    have edited := Keyword.editFirst_addDistinct s.columns
    cases s.top? with
    | none => exact edited
    | some rows =>
      -- The columns that the limit finds begin with the DISTINCT that was added before.
      have parts : "SELECT DISTINCT " ++ s.columns = "SELECT " ++ ("DISTINCT " ++ s.columns) := by
        rw [← String.append_assoc]
        rfl
      have limited := Keyword.editFirst_addTop rows ("DISTINCT " ++ s.columns)
      rw [Keyword.behindDistinct?_distinct] at limited
      have both : [Clause.distinct, .top rows].foldl Clause.rewrite ("SELECT " ++ s.columns) =
          (Clause.top rows).rewrite ("SELECT " ++ ("DISTINCT " ++ s.columns)) :=
        congrArg (fun text => (Clause.top rows).rewrite text) (edited.trans parts)
      refine both.trans (limited.trans ?_)
      simp only [String.append_assoc]

theorem Selection.foldl_clauses (s : Selection) :
    s.clauses.foldl Clause.rewrite ("SELECT " ++ s.columns) = s.head ++ s.body.text := by
  unfold Selection.clauses
  rw [← List.append_assoc, List.foldl_append, s.foldl_head, s.body.writes]

theorem Writes.values (values : Parameters) :
    Writes [.insertValues values] (valuesText values) := by
  have gap (front : String) : front ++ ") " ++ " VALUES (" = front ++ ")  VALUES (" := by
    rw [String.append_assoc]
    rfl
  refine .single fun text => ?_
  change text ++ Clause.valuesText values = _
  rw [Clause.valuesText, gap]
  rfl

theorem Writes.set (set : Parameters) :
    Writes [.updateSet set] (setText set) :=
  .single fun _ => rfl

theorem text_eq_foldl (sentence : Sentence) (s : Session) :
    ∃ text, (sentence.opening.perform s).query? = some text ∧
      sentence.clauses.foldl Clause.rewrite text = sentence.text := by
  cases sentence with
  | select selection =>
    refine ⟨"SELECT " ++ selection.columns, ?_, selection.foldl_clauses⟩
    simp only [opening, Selection.columns]
    cases selection.columns? <;> rfl
  | insert table values present => exact ⟨"INSERT INTO " ++ table, rfl, Writes.values values _⟩
  | update table set present where? =>
    have written := (Writes.set set).append (.optional Condition.writes where?) ("UPDATE " ++ table)
    exact ⟨"UPDATE " ++ table, rfl, written.trans String.append_assoc.symm⟩
  | delete table where? => exact ⟨"DELETE FROM " ++ table, rfl, Writes.optional Condition.writes where? _⟩

end Sentence

namespace Statement

variable {α : Type} {s left : Session} {t : Statement} {opening : Opening} {clauses : List Clause}

theorem Terminal.hasTerminal_of_admitted {stage : Stage} {terminal : Terminal α}
    (admitted : terminal.admitted stage = true) : stage.hasTerminal = true := by
  unfold Stage.hasTerminal
  cases terminal with
  | query take => rw [show stage.endsQuery = true from admitted, Bool.true_or, Bool.true_or]
  | execute => rw [show stage.endsNonQuery = true from admitted, Bool.or_true, Bool.true_or]
  | callQuery take => rw [show stage.isProcedure = true from admitted, Bool.or_true]
  | callExecute => rw [show stage.isProcedure = true from admitted, Bool.or_true]

/-- A chain that may be run writes the text of a sentence of which it has just the clauses: the front with
the columns as they are given, whatever they are, and then every part at most once and at its place. Only
a chain that calls a procedure writes no text. -/
theorem query?_canonical {terminal : Terminal α}
    (written : (start s opening).addAll? clauses = some (.ok t, left))
    (admitted : terminal.admitted t.stage = true) :
    (∃ name, opening = .procedure name ∧ t.session.query? = none) ∨
      ∃ sentence : Sentence, opening = sentence.opening ∧ clauses = sentence.clauses ∧
        t.session.query? = some sentence.text := by
  have stage : t.stage.isProcedure = opening.stage.isProcedure := isProcedure_addAll? written
  cases mode : t.stage.isProcedure with
  | true =>
    obtain ⟨name, _, opened, _, _, query, _⟩ := (stands_written written).call mode
    exact Or.inl ⟨name, opened, query⟩
  | false =>
    obtain ⟨sentence, rfl, rfl⟩ :=
      exists_sentence written (stage.symm.trans mode) (Terminal.hasTerminal_of_admitted admitted)
    obtain ⟨text, present, comes⟩ := sentence.text_eq_foldl s
    exact Or.inr ⟨sentence, rfl, rfl, (query?_addAll? present written).trans (congrArg some comes)⟩

/-- Columns that hold what a search for the front of the text could stumble over. -/
theorem query?_canonical_hostile_columns :
    let opening := Opening.select ["DISTINCT é", "$0", "(SELECT TOP 1 SELECTED FROM U)"]
    let clauses : List Clause :=
      [.top 3, .fromTable "T" (some "t"), .withNoLock, .join "V" none .left, .joinOn "t.id = V.id" .empty,
        .withNoLock, .filter "é = @é" (Parameters.empty.bind "é" (.int 1)), .groupBy ["é", "$0"],
        .having "COUNT(*) > 1" .empty, .orderBy ["é"], .descending]
    ∃ t left, (start (.new "") opening).addAll? clauses = some (.ok t, left) ∧
      (Terminal.query .rows : Terminal Unit).admitted t.stage = true ∧
      ∃ sentence : Sentence, opening = sentence.opening ∧ clauses = sentence.clauses ∧
        sentence.text = "SELECT DISTINCT TOP 3 é, $0, (SELECT TOP 1 SELECTED FROM U) FROM T t WITH (NOLOCK)" ++
          " LEFT JOIN V ON t.id = V.id WITH (NOLOCK) WHERE é = @é GROUP BY é, $0 HAVING COUNT(*) > 1" ++
          " ORDER BY é DESC" := by
  intro opening clauses
  obtain ⟨t, left, written, query, stage⟩ : ∃ t left,
      (start (.new "") opening).addAll? clauses = some (.ok t, left) ∧
      t.session.query? = some ("SELECT DISTINCT TOP 3 é, $0, (SELECT TOP 1 SELECTED FROM U) FROM T t WITH (NOLOCK)" ++
        " LEFT JOIN V ON t.id = V.id WITH (NOLOCK) WHERE é = @é GROUP BY é, $0 HAVING COUNT(*) > 1" ++
        " ORDER BY é DESC") ∧
      t.stage = .ascendingDescending := by
    refine ⟨_, _, rfl, ?_, rfl⟩
    decide +kernel
  have admitted : (Terminal.query .rows : Terminal Unit).admitted t.stage = true := by rw [stage]; rfl
  rcases query?_canonical written admitted with ⟨name, impossible, _⟩ | ⟨sentence, opened, added, text⟩
  · simp [opening] at impossible
  · exact ⟨t, left, written, admitted, sentence, opened, added, Option.some.inj (text.symm.trans query)⟩

end Statement

end TypedSql
