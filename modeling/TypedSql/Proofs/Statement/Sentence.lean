import TypedSql.Proofs.Statement.Wording

namespace TypedSql

namespace Stage

def hasTerminal (stage : Stage) : Bool := stage.endsQuery || stage.endsNonQuery || stage.isProcedure

end Stage

namespace Sentence

structure Source where
  table : String
  name? : Option String

structure Condition where
  text : String
  parameters : Parameters

structure Joined where
  kind : JoinKind
  source : Source
  on : Condition
  noLock : Bool

structure Grouping where
  columns : List String
  having? : Option Condition

inductive Direction where
  | ascending
  | descending

structure Order where
  columns : List String
  direction? : Option Direction

/-- A part that may be there, written in some way. -/
def optional {α β : Type} (write : α → List β) (part? : Option α) : List β := part?.elim [] write

/-! The clauses that a part is written by. -/

def Source.clause (s : Source) : Clause := .fromTable s.table s.name?

def hintClauses (noLock : Bool) : List Clause := if noLock then [.withNoLock] else []

def Joined.clauses (j : Joined) : List Clause :=
  [.join j.source.table j.source.name? j.kind, .joinOn j.on.text j.on.parameters] ++ hintClauses j.noLock

def Condition.clauses (c : Condition) : List Clause := [.filter c.text c.parameters]

def Condition.havingClauses (c : Condition) : List Clause := [.having c.text c.parameters]

def Grouping.clauses (g : Grouping) : List Clause := .groupBy g.columns :: optional Condition.havingClauses g.having?

def Direction.clauses : Direction → List Clause
  | .ascending => [.ascending]
  | .descending => [.descending]

def Order.clauses (o : Order) : List Clause := .orderBy o.columns :: optional Direction.clauses o.direction?

/-- What may follow the sources of a selection. -/
structure Tail where
  where? : Option Condition
  grouping? : Option Grouping
  order? : Option Order

def Tail.clauses (e : Tail) : List Clause :=
  optional Condition.clauses e.where? ++ (optional Grouping.clauses e.grouping? ++ optional Order.clauses e.order?)

structure Body where
  source : Source
  noLock : Bool
  join? : Option Joined
  tail : Tail

def Body.clauses (b : Body) : List Clause :=
  b.source.clause :: (hintClauses b.noLock ++ (optional Joined.clauses b.join? ++ b.tail.clauses))

structure Selection where
  columns? : Option (List String)
  distinct : Bool
  top? : Option Nat
  body : Body

def distinctClauses (distinct : Bool) : List Clause := if distinct then [.distinct] else []

def topClauses (rows : Nat) : List Clause := [.top rows]

def Selection.clauses (s : Selection) : List Clause :=
  distinctClauses s.distinct ++ (optional topClauses s.top? ++ s.body.clauses)

end Sentence

/-- A statement as its parts: of each the sentence has as many as its kind has places for. -/
inductive Sentence where
  | select (selection : Sentence.Selection)
  | insert (table : String) (values : Parameters) (present : values.isEmpty = false)
  | update (table : String) (set : Parameters) (present : set.isEmpty = false)
      (where? : Option Sentence.Condition)
  | delete (table : String) (where? : Option Sentence.Condition)

namespace Sentence

def opening : Sentence → Opening
  | .select s => s.columns?.elim .selectAll .select
  | .insert table _ _ => .insertInto table
  | .update table _ _ _ => .update table
  | .delete table _ => .deleteFrom table

def clauses : Sentence → List Clause
  | .select s => s.clauses
  | .insert _ values _ => [.insertValues values]
  | .update _ set _ where? => .updateSet set :: optional Condition.clauses where?
  | .delete _ where? => optional Condition.clauses where?

end Sentence

namespace Stage

open Sentence

variable {stage other last : Stage} {clause : Clause} {clauses : List Clause}

/-- Two stages that take a clause alike take it alike with all that follows. -/
theorem after?_of_next?_eq (h : stage.after? (clause :: clauses) = some last)
    (same : other.next? clause = stage.next? clause) : other.after? (clause :: clauses) = some last := by
  unfold after? at h ⊢
  rwa [List.foldlM_cons, same, ← List.foldlM_cons]

/-- A stage that takes no clause is the last. -/
theorem eq_nil_of_after? (h : stage.after? clauses = some last) (final : ∀ clause, stage.next? clause = none) :
    clauses = [] := by
  cases clauses with
  | nil => rfl
  | cons clause rest =>
    obtain ⟨next, step, _⟩ := after?_cons h
    rw [final clause] at step
    cases step

/-! What is left of a chain at each stage, from the last stage to the first. But for the clauses of its
own, a stage takes what the one before it in this list takes. -/

theorem eq_of_after?_orderBy (h : Stage.orderBy.after? clauses = some last) :
    ∃ direction?, clauses = optional Direction.clauses direction? := by
  cases clauses with
  | nil => exact ⟨none, rfl⟩
  | cons clause rest =>
    obtain ⟨next, step, later⟩ := after?_cons h
    have final : ∀ clause, ascendingDescending.next? clause = none := fun clause => by cases clause <;> rfl
    cases clause with
    | ascending =>
      cases step
      exact ⟨some .ascending, by rw [eq_nil_of_after? later final]; rfl⟩
    | descending =>
      cases step
      exact ⟨some .descending, by rw [eq_nil_of_after? later final]; rfl⟩
    | _ => cases step

theorem eq_of_after?_having (h : Stage.having.after? clauses = some last) :
    ∃ order?, clauses = optional Order.clauses order? := by
  cases clauses with
  | nil => exact ⟨none, rfl⟩
  | cons clause rest =>
    obtain ⟨next, step, later⟩ := after?_cons h
    cases clause with
    | orderBy columns =>
      cases step
      obtain ⟨direction?, rfl⟩ := eq_of_after?_orderBy later
      exact ⟨some ⟨columns, direction?⟩, rfl⟩
    | _ => cases step

theorem eq_of_after?_groupBy (h : Stage.groupBy.after? clauses = some last) :
    ∃ having? order?, clauses = optional Condition.havingClauses having? ++ optional Order.clauses order? := by
  cases clauses with
  | nil => exact ⟨none, none, rfl⟩
  | cons clause rest =>
    cases clause with
    | having text parameters =>
      obtain ⟨next, step, later⟩ := after?_cons h
      cases step
      obtain ⟨order?, rfl⟩ := eq_of_after?_having later
      exact ⟨some ⟨text, parameters⟩, order?, rfl⟩
    | _ => exact ⟨none, eq_of_after?_having (after?_of_next?_eq h rfl)⟩

theorem eq_of_after?_selectWhere (h : Stage.selectWhere.after? clauses = some last) :
    ∃ grouping? order?, clauses = optional Grouping.clauses grouping? ++ optional Order.clauses order? := by
  cases clauses with
  | nil => exact ⟨none, none, rfl⟩
  | cons clause rest =>
    cases clause with
    | groupBy columns =>
      obtain ⟨next, step, later⟩ := after?_cons h
      cases step
      obtain ⟨having?, order?, rfl⟩ := eq_of_after?_groupBy later
      exact ⟨some ⟨columns, having?⟩, order?, rfl⟩
    | _ => exact ⟨none, eq_of_after?_having (after?_of_next?_eq h rfl)⟩

theorem eq_of_after?_joinOnNoLock (h : Stage.joinOnNoLock.after? clauses = some last) :
    ∃ tail : Tail, clauses = tail.clauses := by
  cases clauses with
  | nil => exact ⟨⟨none, none, none⟩, rfl⟩
  | cons clause rest =>
    cases clause with
    | filter text parameters =>
      obtain ⟨next, step, later⟩ := after?_cons h
      cases step
      obtain ⟨grouping?, order?, rfl⟩ := eq_of_after?_selectWhere later
      exact ⟨⟨some ⟨text, parameters⟩, grouping?, order?⟩, rfl⟩
    | _ =>
      obtain ⟨grouping?, order?, same⟩ := eq_of_after?_selectWhere (after?_of_next?_eq h rfl)
      exact ⟨⟨none, grouping?, order?⟩, same⟩

theorem eq_of_after?_joinOn (h : Stage.joinOn.after? clauses = some last) :
    ∃ (noLock : Bool) (tail : Tail), clauses = hintClauses noLock ++ tail.clauses := by
  cases clauses with
  | nil => exact ⟨false, ⟨none, none, none⟩, rfl⟩
  | cons clause rest =>
    cases clause with
    | withNoLock =>
      obtain ⟨next, step, later⟩ := after?_cons h
      cases step
      obtain ⟨tail, rfl⟩ := eq_of_after?_joinOnNoLock later
      exact ⟨true, tail, rfl⟩
    | _ => exact ⟨false, eq_of_after?_joinOnNoLock (after?_of_next?_eq h rfl)⟩

theorem eq_of_after?_join (h : Stage.join.after? clauses = some last) (ends : last.hasTerminal = true) :
    ∃ (on : Condition) (noLock : Bool) (tail : Tail),
      clauses = .joinOn on.text on.parameters :: (hintClauses noLock ++ tail.clauses) := by
  cases clauses with
  | nil =>
    rw [after?_nil h] at ends
    cases ends
  | cons clause rest =>
    obtain ⟨next, step, later⟩ := after?_cons h
    cases clause with
    | joinOn text parameters =>
      cases step
      obtain ⟨noLock, tail, rfl⟩ := eq_of_after?_joinOn later
      exact ⟨⟨text, parameters⟩, noLock, tail, rfl⟩
    | _ => cases step

theorem eq_of_after?_selectFromNoLock (h : Stage.selectFromNoLock.after? clauses = some last)
    (ends : last.hasTerminal = true) :
    ∃ (join? : Option Joined) (tail : Tail), clauses = optional Joined.clauses join? ++ tail.clauses := by
  cases clauses with
  | nil => exact ⟨none, ⟨none, none, none⟩, rfl⟩
  | cons clause rest =>
    cases clause with
    | join table name? kind =>
      obtain ⟨next, step, later⟩ := after?_cons h
      cases step
      obtain ⟨on, noLock, tail, rfl⟩ := eq_of_after?_join later ends
      exact ⟨some ⟨kind, ⟨table, name?⟩, on, noLock⟩, tail, rfl⟩
    | _ => exact ⟨none, eq_of_after?_joinOnNoLock (after?_of_next?_eq h rfl)⟩

theorem eq_of_after?_selectFrom (h : Stage.selectFrom.after? clauses = some last)
    (ends : last.hasTerminal = true) :
    ∃ (noLock : Bool) (join? : Option Joined) (tail : Tail),
      clauses = hintClauses noLock ++ (optional Joined.clauses join? ++ tail.clauses) := by
  cases clauses with
  | nil => exact ⟨false, none, ⟨none, none, none⟩, rfl⟩
  | cons clause rest =>
    cases clause with
    | withNoLock =>
      obtain ⟨next, step, later⟩ := after?_cons h
      cases step
      obtain ⟨join?, tail, rfl⟩ := eq_of_after?_selectFromNoLock later ends
      exact ⟨true, join?, tail, rfl⟩
    | _ => exact ⟨false, eq_of_after?_selectFromNoLock (after?_of_next?_eq h rfl) ends⟩

theorem eq_of_after?_top (h : Stage.top.after? clauses = some last) (ends : last.hasTerminal = true) :
    ∃ body : Body, clauses = body.clauses := by
  cases clauses with
  | nil =>
    rw [after?_nil h] at ends
    cases ends
  | cons clause rest =>
    obtain ⟨next, step, later⟩ := after?_cons h
    cases clause with
    | fromTable table name? =>
      cases step
      obtain ⟨noLock, join?, tail, rfl⟩ := eq_of_after?_selectFrom later ends
      exact ⟨⟨⟨table, name?⟩, noLock, join?, tail⟩, rfl⟩
    | _ => cases step

theorem eq_of_after?_distinct (h : Stage.distinct.after? clauses = some last) (ends : last.hasTerminal = true) :
    ∃ (top? : Option Nat) (body : Body), clauses = optional topClauses top? ++ body.clauses := by
  cases clauses with
  | nil =>
    rw [after?_nil h] at ends
    cases ends
  | cons clause rest =>
    cases clause with
    | top rows =>
      obtain ⟨next, step, later⟩ := after?_cons h
      cases step
      obtain ⟨body, rfl⟩ := eq_of_after?_top later ends
      exact ⟨some rows, body, rfl⟩
    | _ => exact ⟨none, eq_of_after?_top (after?_of_next?_eq h rfl) ends⟩

theorem eq_of_after?_select (h : Stage.select.after? clauses = some last) (ends : last.hasTerminal = true) :
    ∃ (distinct : Bool) (top? : Option Nat) (body : Body),
      clauses = distinctClauses distinct ++ (optional topClauses top? ++ body.clauses) := by
  cases clauses with
  | nil =>
    rw [after?_nil h] at ends
    cases ends
  | cons clause rest =>
    cases clause with
    | distinct =>
      obtain ⟨next, step, later⟩ := after?_cons h
      cases step
      obtain ⟨top?, body, rfl⟩ := eq_of_after?_distinct later ends
      exact ⟨true, top?, body, rfl⟩
    | _ => exact ⟨false, eq_of_after?_distinct (after?_of_next?_eq h rfl) ends⟩

theorem eq_of_after?_updateSet (h : Stage.updateSet.after? clauses = some last) :
    ∃ where?, clauses = optional Condition.clauses where? := by
  cases clauses with
  | nil => exact ⟨none, rfl⟩
  | cons clause rest =>
    obtain ⟨next, step, later⟩ := after?_cons h
    cases clause with
    | filter text parameters =>
      cases step
      have final : ∀ clause, nonQueryWhere.next? clause = none := fun clause => by cases clause <;> rfl
      exact ⟨some ⟨text, parameters⟩, by rw [eq_nil_of_after? later final]; rfl⟩
    | _ => cases step

theorem eq_of_after?_delete (h : Stage.delete.after? clauses = some last) :
    ∃ where?, clauses = optional Condition.clauses where? := by
  cases clauses with
  | nil => exact ⟨none, rfl⟩
  | cons clause rest => cases clause <;> exact eq_of_after?_updateSet (after?_of_next?_eq h rfl)

end Stage

theorem Clause.isEmpty_of_insertValues {s : Session} {values : Parameters}
    (ok : ((insertValues values).perform s).1 = .ok ()) : values.isEmpty = false := by
  cases empty : values.isEmpty with
  | false => rfl
  | true => simp [perform, empty] at ok

theorem Clause.isEmpty_of_updateSet {s : Session} {set : Parameters}
    (ok : ((updateSet set).perform s).1 = .ok ()) : set.isEmpty = false := by
  cases empty : set.isEmpty with
  | false => rfl
  | true => simp [perform, empty] at ok

/-- Every chain that may be run is the chain of a sentence, or calls a procedure. -/
theorem Statement.exists_sentence {s left : Session} {opening : Opening} {clauses : List Clause}
    {t : Statement} (written : (start s opening).addAll? clauses = some (.ok t, left))
    (text : opening.stage.isProcedure = false) (ends : t.stage.hasTerminal = true) :
    ∃ sentence : Sentence, opening = sentence.opening ∧ clauses = sentence.clauses := by
  have stages := after?_addAll? written
  cases opening with
  | select columns =>
    obtain ⟨distinct, top?, body, same⟩ := Stage.eq_of_after?_select stages ends
    exact ⟨.select ⟨some columns, distinct, top?, body⟩, rfl, same⟩
  | selectAll =>
    obtain ⟨distinct, top?, body, same⟩ := Stage.eq_of_after?_select stages ends
    exact ⟨.select ⟨none, distinct, top?, body⟩, rfl, same⟩
  | deleteFrom table =>
    obtain ⟨where?, same⟩ := Stage.eq_of_after?_delete stages
    exact ⟨.delete table where?, rfl, same⟩
  | procedure name => cases text
  | insertInto table =>
    cases clauses with
    | nil =>
      rw [addAll?_nil_eq_ok written] at ends
      cases ends
    | cons clause rest =>
      obtain ⟨next, step, ok, later⟩ := addAll?_cons_eq_ok written
      cases clause with
      | insertValues values =>
        cases step
        rw [Stage.eq_nil_of_after? (after?_addAll? later) fun clause => by cases clause <;> rfl]
        exact ⟨.insert table values (Clause.isEmpty_of_insertValues ok), rfl, rfl⟩
      | _ => cases step
  | update table =>
    cases clauses with
    | nil =>
      rw [addAll?_nil_eq_ok written] at ends
      cases ends
    | cons clause rest =>
      obtain ⟨next, step, ok, later⟩ := addAll?_cons_eq_ok written
      cases clause with
      | updateSet set =>
        cases step
        obtain ⟨where?, rfl⟩ := Stage.eq_of_after?_updateSet (after?_addAll? later)
        exact ⟨.update table set (Clause.isEmpty_of_updateSet ok) where?, rfl, rfl⟩
      | _ => cases step

namespace Sentence

/-- From a stage, clauses lead to one that has a terminal. -/
def Reaches (stage : Stage) (clauses : List Clause) : Prop :=
  ∃ last, stage.after? clauses = some last ∧ last.hasTerminal = true

variable {stage next : Stage} {clauses clauses' : List Clause}

theorem Reaches.append (first : stage.after? clauses = some next) (h : Reaches next clauses') :
    Reaches stage (clauses ++ clauses') := by
  obtain ⟨last, after, ends⟩ := h
  refine ⟨last, ?_, ends⟩
  rw [Stage.after?_append, first]
  exact after

theorem Tail.reaches (e : Tail)
    (sources : stage = .selectFrom ∨ stage = .selectFromNoLock ∨ stage = .joinOn ∨ stage = .joinOnNoLock) :
    Reaches stage e.clauses := by
  obtain ⟨where?, grouping?, order?⟩ := e
  rcases sources with rfl | rfl | rfl | rfl <;> cases where? <;>
    rcases grouping? with _ | ⟨_, _ | _⟩ <;> rcases order? with _ | ⟨_, _ | _ | _⟩ <;>
    exact ⟨_, rfl, rfl⟩

theorem Body.reaches (b : Body) (front : stage = .select ∨ stage = .distinct ∨ stage = .top) :
    Reaches stage b.clauses := by
  obtain ⟨source, noLock, join?, tail⟩ := b
  obtain ⟨next, first, sources⟩ : ∃ next,
      stage.after? (source.clause :: (hintClauses noLock ++ optional Joined.clauses join?)) = some next ∧
        (next = .selectFrom ∨ next = .selectFromNoLock ∨ next = .joinOn ∨ next = .joinOnNoLock) := by
    rcases front with rfl | rfl | rfl <;> cases noLock <;> rcases join? with _ | ⟨_, _, _, _ | _⟩ <;>
      exact ⟨_, rfl, by simp⟩
  have whole := Reaches.append first (tail.reaches sources)
  rwa [List.cons_append, List.append_assoc] at whole

theorem Selection.reaches (s : Selection) : Reaches .select s.clauses := by
  obtain ⟨columns?, distinct, top?, body⟩ := s
  obtain ⟨next, first, front⟩ : ∃ next,
      Stage.select.after? (distinctClauses distinct ++ optional topClauses top?) = some next ∧
        (next = .select ∨ next = .distinct ∨ next = .top) := by
    cases distinct <;> cases top? <;> exact ⟨_, rfl, by simp⟩
  have whole := Reaches.append first (body.reaches front)
  rwa [List.append_assoc] at whole

/-- Every sentence is written by a chain that may be run. -/
theorem reaches (sentence : Sentence) : Reaches sentence.opening.stage sentence.clauses := by
  cases sentence with
  | select selection =>
    have stage : (Sentence.select selection).opening.stage = .select := by
      simp only [opening]
      cases selection.columns? <;> rfl
    rw [stage]
    exact selection.reaches
  | insert table values present => exact ⟨_, rfl, rfl⟩
  | update table set present where? => cases where? <;> exact ⟨_, rfl, rfl⟩
  | delete table where? => cases where? <;> exact ⟨_, rfl, rfl⟩

end Sentence

end TypedSql
