import TypedSql.Proofs.Statement.Handover
import TypedSql.Proofs.Text.Keyword

namespace TypedSql

variable {s left : Session} {t longer : Statement} {clause : Clause} {clauses : List Clause}
  {stage last : Stage} {text : String}

namespace Clause

/-- What a clause writes behind the text: nothing where it edits the text or is a part of a call. -/
def fragment : Clause → String
  | .fromTable table name? => " FROM " ++ tableSource table name?
  | .withNoLock => " WITH (NOLOCK)"
  | .join table name? kind => " " ++ kind.keyword ++ " JOIN " ++ tableSource table name?
  | .joinOn condition _ => " ON " ++ condition
  | .filter condition _ => " WHERE " ++ condition
  | .groupBy columns => " GROUP BY " ++ listed columns
  | .having condition _ => " HAVING " ++ condition
  | .orderBy columns => " ORDER BY " ++ listed columns
  | .ascending => " ASC"
  | .descending => " DESC"
  | .insertValues parameters => valuesText parameters
  | .updateSet parameters => setText parameters
  | _ => ""

/-- What a clause makes of the text it is added to. -/
def rewrite (text : String) : Clause → String
  | .distinct => String.ofList (Keyword.editFirst Keyword.addDistinct none text.toList)
  | .top rows => String.ofList (Keyword.editFirst (Keyword.addTop rows) none text.toList)
  | clause => text ++ clause.fragment

end Clause

namespace Session

theorem query?_append (present : s.query? = some text) (fragment : String) :
    (s.append fragment).query? = some (text ++ fragment) := by
  simp only [append, query, present, Option.getD_some]

theorem query?_editSelect (present : s.query? = some text) (edit : List Char → Option (List Char)) :
    (s.editSelect edit).query? = some (String.ofList (Keyword.editFirst edit none text.toList)) := by
  simp only [editSelect, present, Option.map_some]

theorem query?_addCondition {keyword condition : String} {parameters : Parameters}
    (present : s.query? = some text) (ok : (s.addCondition keyword condition parameters).1 = .ok ()) :
    (s.addCondition keyword condition parameters).2.query? = some (text ++ (keyword ++ condition)) := by
  have bound := s.query?_bindAll parameters
  unfold addCondition at ok ⊢
  cases binding : s.bindAll parameters with
  | mk answer unchanged =>
    rw [binding] at ok bound
    cases answer with
    | ok _ => exact query?_append (bound.trans present) _
    | error failure => simp at ok

end Session

theorem Clause.query?_perform (present : s.query? = some text) (ok : (clause.perform s).1 = .ok ()) :
    (clause.perform s).2.query? = some (clause.rewrite text) := by
  cases clause with
  | distinct => exact Session.query?_editSelect present _
  | top rows => exact Session.query?_editSelect present _
  | joinOn condition parameters => exact Session.query?_addCondition present ok
  | filter condition parameters => exact Session.query?_addCondition present ok
  | having condition parameters => exact Session.query?_addCondition present ok
  | insertValues parameters =>
    simp only [perform] at ok ⊢
    split at ok
    next => simp at ok
    next nonempty =>
      rw [if_neg nonempty, Session.query?_bindAll]
      exact Session.query?_append present _
  | updateSet parameters =>
    simp only [perform] at ok ⊢
    split at ok
    next => simp at ok
    next nonempty =>
      rw [if_neg nonempty, Session.query?_bindAll]
      exact Session.query?_append present _
  | withParameter name value => simpa [perform, Session.updateCall, rewrite, fragment] using present
  | withParameters parameters => simpa [perform, Session.updateCall, rewrite, fragment] using present
  | withOutputs outputs => simpa [perform, Session.updateCall, rewrite, fragment] using present
  | withFieldsOf payload =>
    simp only [perform] at ok ⊢
    split at ok <;> simpa [Session.updateCall, rewrite, fragment] using present
  | _ => exact Session.query?_append present _

/-- The text that clauses come to is rewritten by one after the other. -/
theorem Statement.query?_addAll? (present : t.session.query? = some text)
    (added : t.addAll? clauses = some (.ok longer, left)) :
    longer.session.query? = some (clauses.foldl Clause.rewrite text) := by
  induction clauses generalizing t text with
  | nil => rwa [addAll?_nil_eq_ok added]
  | cons clause rest ih =>
    obtain ⟨next, _, ok, later⟩ := addAll?_cons_eq_ok added
    exact ih (Clause.query?_perform present ok) later

namespace Stage

/-- The stage that clauses lead to, where each is admitted after those before it. -/
def after? (stage : Stage) (clauses : List Clause) : Option Stage := clauses.foldlM next? stage

theorem after?_nil (h : stage.after? [] = some last) : last = stage := (Option.some.inj h).symm

theorem after?_cons (h : stage.after? (clause :: clauses) = some last) :
    ∃ next, stage.next? clause = some next ∧ next.after? clauses = some last := by
  unfold after? at h
  rw [List.foldlM_cons] at h
  exact Option.bind_eq_some_iff.mp h

theorem after?_append (stage : Stage) (clauses clauses' : List Clause) :
    stage.after? (clauses ++ clauses') = (stage.after? clauses).bind fun next => next.after? clauses' :=
  List.foldlM_append

end Stage

theorem Statement.after?_addAll? (added : t.addAll? clauses = some (.ok longer, left)) :
    t.stage.after? clauses = some longer.stage := by
  induction clauses generalizing t with
  | nil =>
    rw [addAll?_nil_eq_ok added]
    rfl
  | cons clause rest ih =>
    obtain ⟨next, step, _, later⟩ := addAll?_cons_eq_ok added
    unfold Stage.after?
    rw [List.foldlM_cons, step]
    exact ih later

end TypedSql
