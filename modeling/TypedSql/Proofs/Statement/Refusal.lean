import TypedSql.Proofs.Statement.Mode
import TypedSql.Recorder

namespace TypedSql

variable {σ α : Type} {s session left : Session} {t : Statement} {opening : Opening} {clause : Clause}
  {clauses : List Clause} {next : Stage} {failure : Failure} {parameters : Parameters}

namespace Session

/-- Where nothing is bound, nothing clashes. -/
theorem bindAll_of_unbound (unbound : s.parameters = .empty) (parameters : Parameters) :
    (s.bindAll parameters).1 = .ok () := by
  have free : parameters.entries.find? Parameters.empty.clashes = none :=
    List.find?_eq_none.mpr fun _ _ clash => by cases clash
  simp only [bindAll, unbound, Parameters.mergeDisjoint, free]

theorem eq_of_bindAll_error (h : s.bindAll parameters = (.error failure, session)) : session = s := by
  unfold bindAll at h
  split at h
  next => cases h
  next => exact (Prod.mk.inj h).2.symm

theorem eq_of_addCondition_error {keyword condition : String}
    (h : s.addCondition keyword condition parameters = (.error failure, session)) : session = s := by
  unfold addCondition at h
  split at h
  next => cases h
  next binding =>
    rw [← (Prod.mk.inj h).2]
    exact eq_of_bindAll_error binding

end Session

/-- Nothing is bound where a clause appends its text before it binds. -/
theorem Stage.isUnbound_of_next? {stage : Stage}
    (h : stage.next? (.insertValues parameters) = some next ∨ stage.next? (.updateSet parameters) = some next) :
    stage.isUnbound = true := by
  rcases h with h | h <;> cases stage <;> first | rfl | cases h

namespace Statement

theorem Stands.bindAll_eq_ok (h : t.Stands opening)
    (step : t.stage.next? (.insertValues parameters) = some next ∨
      t.stage.next? (.updateSet parameters) = some next) (fragment : String) :
    ((t.session.append fragment).bindAll parameters).1 = .ok () := by
  have unbound : (t.session.append fragment).parameters = .empty := h.unbound (Stage.isUnbound_of_next? step)
  exact Session.bindAll_of_unbound unbound parameters

/-- A clause that fails leaves the session as it was. -/
theorem Stands.eq_of_perform_error (h : t.Stands opening) (step : t.stage.next? clause = some next)
    (failed : clause.perform t.session = (.error failure, session)) : session = t.session := by
  cases clause with
  | joinOn condition parameters => exact Session.eq_of_addCondition_error failed
  | filter condition parameters => exact Session.eq_of_addCondition_error failed
  | having condition parameters => exact Session.eq_of_addCondition_error failed
  | insertValues parameters =>
    have bound := h.bindAll_eq_ok (.inl step) (Clause.valuesText parameters)
    simp only [Clause.perform] at failed
    split at failed
    next => exact (Prod.mk.inj failed).2.symm
    next => rw [failed] at bound; cases bound
  | updateSet parameters =>
    have bound := h.bindAll_eq_ok (.inr step) (Clause.setText parameters)
    simp only [Clause.perform] at failed
    split at failed
    next => exact (Prod.mk.inj failed).2.symm
    next => rw [failed] at bound; cases bound
  | withFieldsOf payload =>
    simp only [Clause.perform] at failed
    split at failed
    next => cases failed
    next => exact (Prod.mk.inj failed).2.symm
  | _ => cases failed

theorem Stands.eq_of_add?_error (h : t.Stands opening) (failed : t.add? clause = some (.error failure, session)) :
    session = t.session := by
  obtain ⟨next, step, added⟩ := Option.map_eq_some_iff.mp failed
  cases performed : clause.perform t.session with
  | mk answer after =>
    simp only [performed, Prod.mk.injEq] at added
    obtain ⟨mapped, rfl⟩ := added
    cases answer with
    | ok _ => cases mapped
    | error failure' =>
      cases mapped
      exact h.eq_of_perform_error step performed

theorem addAll?_append_of_error (added : t.addAll? clauses = some (.ok longer, left))
    (failed : longer.add? clause = some (.error failure, session)) (more : List Clause) :
    t.addAll? (clauses ++ clause :: more) = some (.error failure, session) := by
  rw [addAll?_append added]
  simp only [addAll?, failed]

/-- Whatever session a statement is written in, and wherever in its chain a clause fails: the session is
left as it was before that clause, and no call is made. The values of an INSERT and of an UPDATE, which go
into the text before they are bound, cannot fail to be bound. -/
theorem refusal_changes_nothing (written : (start s opening).addAll? clauses = some (.ok t, left)) :
    (∀ clause failure session, t.add? clause = some (.error failure, session) →
      session = t.session ∧
      ∀ (layer : DataLayer σ) (w : World σ) (more : List Clause) (terminal? : Option (Terminal α)),
        (Use.write opening (clauses ++ clause :: more) terminal?).perform layer s w =
          ((.error failure, t.session), w)) ∧
    (∀ parameters next, t.stage.next? (.insertValues parameters) = some next →
      ((t.session.append (Clause.valuesText parameters)).bindAll parameters).1 = .ok ()) ∧
    ∀ parameters next, t.stage.next? (.updateSet parameters) = some next →
      ((t.session.append (Clause.setText parameters)).bindAll parameters).1 = .ok () := by
  have stands := stands_written written
  refine ⟨fun clause failure session failed => ?_, fun _ _ step => stands.bindAll_eq_ok (.inl step) _,
    fun _ _ step => stands.bindAll_eq_ok (.inr step) _⟩
  have same : session = t.session := stands.eq_of_add?_error failed
  subst same
  refine ⟨rfl, fun layer w more terminal? => ?_⟩
  simp only [Use.perform, addAll?_append_of_error written failed more]
  rfl

/-- A condition that binds a name anew, in a session that still holds another statement. -/
theorem refusal_changes_nothing_rebound :
    let used : Session := { target := "", query? := some "DELETE FROM U WHERE z = @x",
                            parameters := Parameters.empty.bind "x" (.int 2) }
    let set := Clause.updateSet (Parameters.empty.bind "x" (.int 1))
    let condition := Clause.filter "x = @x" (Parameters.empty.bind "x" (.int 2))
    ∃ t left, (start used (.update "T")).addAll? [set] = some (.ok t, left) ∧
      t.add? condition = some (.error (.boundDifferently "@x"), t.session) ∧
      t.session.query = "UPDATE T SET x = @x" ∧
      ∀ w, (Use.write (.update "T") [set, condition] (some .execute) : Use Unit).perform Recorder.layer used w =
        ((.error (.boundDifferently "@x"), t.session), w) := by
  intro used set condition
  obtain ⟨t, left, written, query, failed⟩ : ∃ t left,
      (start used (.update "T")).addAll? [set] = some (.ok t, left) ∧ t.session.query = "UPDATE T SET x = @x" ∧
      t.add? condition = some (.error (.boundDifferently "@x"), t.session) := by
    refine ⟨_, _, rfl, ?_, rfl⟩
    decide +kernel
  obtain ⟨_, whole⟩ := (refusal_changes_nothing written).1 _ _ _ failed
  exact ⟨t, left, written, failed, query, fun w => whole Recorder.layer w [] (some .execute)⟩

end Statement

end TypedSql
