import TypedSql.Proofs.Binding
import TypedSql.Proofs.Statement.Steps

namespace TypedSql

variable {s : Session} {pairs : List (String × Value)}

def Clause.bound : Clause → List (String × Value)
  | .joinOn _ parameters => parameters.entries
  | .filter _ parameters => parameters.entries
  | .having _ parameters => parameters.entries
  | .insertValues parameters => parameters.entries
  | .updateSet parameters => parameters.entries
  | _ => []

theorem Session.collects_bindAll {parameters : Parameters} (h : s.parameters.Collects pairs)
    (ok : (s.bindAll parameters).1 = .ok ()) :
    (s.bindAll parameters).2.parameters.Collects (pairs ++ parameters.entries) := by
  unfold bindAll at ok ⊢
  cases merged : s.parameters.mergeDisjoint parameters with
  | ok held => simpa only [merged] using h.mergeDisjoint merged
  | error failure => simp [merged] at ok

theorem Session.collects_addCondition {keyword condition : String} {parameters : Parameters}
    (h : s.parameters.Collects pairs) (ok : (s.addCondition keyword condition parameters).1 = .ok ()) :
    (s.addCondition keyword condition parameters).2.parameters.Collects (pairs ++ parameters.entries) := by
  have bound : _ → (s.bindAll parameters).2.parameters.Collects _ := collects_bindAll h
  unfold addCondition at ok ⊢
  cases binding : s.bindAll parameters with
  | mk answer left =>
    rw [binding] at bound ok
    cases answer with
    | ok _ => exact bound rfl
    | error failure => simp at ok

theorem Opening.collects_perform (s : Session) (opening : Opening) :
    (opening.perform s).parameters.Collects [] := by
  cases opening <;> exact .empty

theorem Clause.collects_perform {clause : Clause} (h : s.parameters.Collects pairs)
    (ok : (clause.perform s).1 = .ok ()) :
    (clause.perform s).2.parameters.Collects (pairs ++ clause.bound) := by
  cases clause with
  | joinOn condition parameters => exact Session.collects_addCondition h ok
  | filter condition parameters => exact Session.collects_addCondition h ok
  | having condition parameters => exact Session.collects_addCondition h ok
  | insertValues parameters =>
    simp only [perform] at ok ⊢
    split at ok
    next => simp at ok
    next present =>
      rw [if_neg present]
      exact Session.collects_bindAll h ok
  | updateSet parameters =>
    simp only [perform] at ok ⊢
    split at ok
    next => simp at ok
    next present =>
      rw [if_neg present]
      exact Session.collects_bindAll h ok
  | withFieldsOf payload =>
    simp only [perform, bound, List.append_nil] at ok ⊢
    split <;> exact h
  | _ =>
    simp only [bound, List.append_nil]
    exact h

theorem Statement.collects_addAll? {t longer : Statement} {clauses : List Clause} {left : Session}
    (h : t.session.parameters.Collects pairs) (added : t.addAll? clauses = some (.ok longer, left)) :
    longer.session.parameters.Collects (pairs ++ clauses.flatMap Clause.bound) := by
  induction clauses generalizing t pairs with
  | nil =>
    rw [addAll?_nil_eq_ok added, List.flatMap_nil, List.append_nil]
    exact h
  | cons clause rest ih =>
    obtain ⟨next, _, ok, later⟩ := addAll?_cons_eq_ok added
    rw [List.flatMap_cons, ← List.append_assoc]
    exact ih (Clause.collects_perform h ok) later

theorem Statement.collects_written {t : Statement} {opening : Opening} {clauses : List Clause}
    {left : Session} (written : (start s opening).addAll? clauses = some (.ok t, left)) :
    t.session.parameters.Collects (clauses.flatMap Clause.bound) := by
  have held := collects_addAll? (opening.collects_perform s) written
  rwa [List.nil_append] at held

end TypedSql
