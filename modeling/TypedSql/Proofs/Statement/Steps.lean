import TypedSql.Proofs.Session.Use

namespace TypedSql

variable {α : Type} {s : Session} {opening : Opening} {clause : Clause} {clauses : List Clause}
  {t longer : Statement} {left : Session}

theorem Stage.isProcedure_next? {stage next : Stage} (h : stage.next? clause = some next) :
    next.isProcedure = stage.isProcedure := by
  unfold next? at h
  split at h
  all_goals cases h
  all_goals rfl

namespace Statement

/-- Where all clauses go in, the first does, and the others behind it. -/
theorem addAll?_cons_eq_ok (added : t.addAll? (clause :: clauses) = some (.ok longer, left)) :
    ∃ next, t.stage.next? clause = some next ∧ (clause.perform t.session).1 = .ok () ∧
      addAll? ⟨next, (clause.perform t.session).2⟩ clauses = some (.ok longer, left) := by
  cases stage : t.stage.next? clause with
  | none => simp [addAll?, add?, stage] at added
  | some next =>
    cases performed : clause.perform t.session with
    | mk outcome session =>
      cases outcome with
      | error failure => simp [addAll?, add?, stage, performed, Except.map] at added
      | ok _ =>
        simp only [addAll?, add?, stage, performed, Option.map_some, Except.map] at added
        exact ⟨next, rfl, rfl, added⟩

theorem addAll?_nil_eq_ok (added : t.addAll? [] = some (.ok longer, left)) : longer = t := by
  simp only [addAll?, Option.some.injEq, Prod.mk.injEq, Except.ok.injEq] at added
  exact added.1.symm

theorem addAll?_singleton {next : Stage} (step : t.stage.next? clause = some next)
    (ok : (clause.perform t.session).1 = .ok ()) :
    t.addAll? [clause] =
      some (.ok ⟨next, (clause.perform t.session).2⟩, (clause.perform t.session).2) := by
  simp only [addAll?, add?, step, Option.map_some, ok, Except.map]

/-- Clauses behind those that went in are added to what these came to. -/
theorem addAll?_append (added : t.addAll? clauses = some (.ok longer, left)) (more : List Clause) :
    t.addAll? (clauses ++ more) = longer.addAll? more := by
  induction clauses generalizing t with
  | nil => rw [List.nil_append, addAll?_nil_eq_ok added]
  | cons first rest ih =>
    obtain ⟨next, step, ok, later⟩ := addAll?_cons_eq_ok added
    simp only [List.cons_append, addAll?, add?, step, Option.map_some, ok, Except.map]
    exact ih later

/-- Where clauses go in with others before them, the others do, and the clauses behind them. -/
theorem exists_of_addAll?_append {more : List Clause} (added : t.addAll? (clauses ++ more) = some (.ok longer, left)) :
    ∃ middle left', t.addAll? clauses = some (.ok middle, left') ∧ middle.addAll? more = some (.ok longer, left) := by
  induction clauses generalizing t with
  | nil => exact ⟨t, t.session, rfl, added⟩
  | cons first rest ih =>
    obtain ⟨next, step, ok, later⟩ := addAll?_cons_eq_ok added
    obtain ⟨middle, left', before, behind⟩ := ih later
    refine ⟨middle, left', ?_, behind⟩
    simp only [addAll?, add?, step, Option.map_some, ok, Except.map]
    exact before

theorem isProcedure_addAll? (added : t.addAll? clauses = some (.ok longer, left)) :
    longer.stage.isProcedure = t.stage.isProcedure := by
  induction clauses generalizing t with
  | nil => rw [addAll?_nil_eq_ok added]
  | cons clause rest ih =>
    obtain ⟨next, stage, _, later⟩ := addAll?_cons_eq_ok added
    exact (ih later).trans (Stage.isProcedure_next? stage)

theorem Terminal.subject_of_admitted {stage : Stage} {terminal : Terminal α}
    (admitted : terminal.admitted stage = true) :
    terminal.subject = if stage.isProcedure then .procedure else .written := by
  cases terminal with
  | query take =>
    have text : stage.isProcedure = false := by
      cases stage <;> first | rfl | simp [Terminal.admitted, Stage.endsQuery] at admitted
    rw [text]
    rfl
  | execute =>
    have text : stage.isProcedure = false := by
      cases stage <;> first | rfl | simp [Terminal.admitted, Stage.endsNonQuery] at admitted
    rw [text]
    rfl
  | callQuery take =>
    have procedure : stage.isProcedure = true := admitted
    rw [if_pos procedure]
    rfl
  | callExecute =>
    have procedure : stage.isProcedure = true := admitted
    rw [if_pos procedure]
    rfl

end Statement

end TypedSql
