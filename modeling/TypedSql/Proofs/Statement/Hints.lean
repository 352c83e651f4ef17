import TypedSql.Proofs.Statement.Mode

namespace TypedSql

variable {s left : Session} {opening : Opening} {clause : Clause} {clauses before after : List Clause} {t : Statement}
  {text : String}

/-- The table source that a clause ends in: the table, with its alias where it has one. -/
def Clause.source? : Clause → Option String
  | .fromTable table name? => some (tableSource table name?)
  | .join table name? _ => some (tableSource table name?)
  | _ => none

namespace Stage

variable {stage next last : Stage}

theorem takes_hint (h : stage.next? .withNoLock = some next) : stage = .selectFrom ∨ stage = .joinOn := by
  cases stage <;> first | exact Or.inl rfl | exact Or.inr rfl | cases h

theorem eq_of_next?_selectFrom (h : stage.next? clause = some .selectFrom) :
    ∃ table name?, clause = .fromTable table name? := by
  unfold next? at h
  split at h
  all_goals first | exact ⟨_, _, rfl⟩ | cases h

theorem eq_of_next?_join (h : stage.next? clause = some .join) :
    ∃ table name? kind, clause = .join table name? kind := by
  unfold next? at h
  split at h
  all_goals first | exact ⟨_, _, _, rfl⟩ | cases h

theorem eq_of_next?_joinOn (h : stage.next? clause = some .joinOn) :
    stage = .join ∧ ∃ condition parameters, clause = .joinOn condition parameters := by
  unfold next? at h
  split at h
  all_goals first | exact ⟨rfl, _, _, rfl⟩ | cases h

/-- A stage that clauses lead to from another is what the last of them leads to. -/
theorem exists_last_of_after? (h : stage.after? clauses = some last) (apart : stage ≠ last) :
    ∃ earlier clause middle, clauses = earlier ++ [clause] ∧ stage.after? earlier = some middle ∧
      middle.next? clause = some last := by
  rcases List.eq_nil_or_concat clauses with rfl | ⟨earlier, clause, rfl⟩
  · exact absurd (after?_nil h).symm apart
  · rw [List.concat_eq_append, after?_append] at h
    obtain ⟨middle, reached, step⟩ := Option.bind_eq_some_iff.mp h
    obtain ⟨next, leads, done⟩ := after?_cons step
    rw [← after?_nil done] at leads
    exact ⟨earlier, clause, middle, List.concat_eq_append, reached, leads⟩

end Stage

namespace Statement

/-- What can stand before a hint, clauses and text: a FROM with its table source, or the condition of a join,
behind the table source that is joined. -/
inductive BeforeHint : List Clause → String → Prop where
  | source (earlier : List Clause) (table : String) (name? : Option String) (front : String) :
      BeforeHint (earlier ++ [.fromTable table name?]) (front ++ (" FROM " ++ Clause.tableSource table name?))
  | condition (earlier : List Clause) (table : String) (name? : Option String) (kind : JoinKind) (on : String)
      (parameters : Parameters) (front : String) :
      BeforeHint (earlier ++ [.join table name? kind, .joinOn on parameters])
        (front ++ (" " ++ kind.keyword ++ " JOIN " ++ Clause.tableSource table name?) ++ (" ON " ++ on))

/-- The text that clauses come to, where all of them go in. -/
def text? (s : Session) (opening : Opening) (clauses : List Clause) : Option String :=
  match (start s opening).addAll? clauses with
  | some (.ok t, _) => t.session.query?
  | _ => none

/-- In the text of a chain every hint stands directly behind the table source of the clause before it. -/
def HintsOnSources (s : Session) (opening : Opening) (clauses : List Clause) : Prop :=
  ∀ before after, clauses = before ++ .withNoLock :: after →
    ∃ earlier last source front behind, before = earlier ++ [last] ∧ last.source? = some source ∧
      text? s opening before = some (front ++ source) ∧
      text? s opening clauses = some (front ++ source ++ " WITH (NOLOCK)" ++ behind)

theorem text?_eq (written : (start s opening).addAll? clauses = some (.ok t, left)) :
    text? s opening clauses = t.session.query? := by
  simp only [text?, written]

theorem beforeHint (written : (start s opening).addAll? clauses = some (.ok t, left)) {next : Stage}
    (hint : t.stage.next? .withNoLock = some next) :
    ∃ text, BeforeHint clauses text ∧ t.session.query? = some text := by
  have stages : opening.stage.after? clauses = some t.stage := after?_addAll? written
  have mode : opening.stage.isProcedure = false :=
    (isProcedure_addAll? written).symm.trans (Stage.isCall_of_next? hint).symm
  obtain ⟨first, present⟩ := Option.isSome_iff_exists.mp (opening.isSome_query?_perform mode s)
  have query := query?_addAll? present written
  rcases Stage.takes_hint hint with from_ | on
  · rw [from_] at stages
    obtain ⟨earlier, clause, _, rfl, _, leads⟩ := Stage.exists_last_of_after? stages (by cases opening <;> nofun)
    obtain ⟨table, name?, rfl⟩ := Stage.eq_of_next?_selectFrom leads
    rw [List.foldl_append] at query
    exact ⟨_, .source earlier table name? _, query⟩
  · rw [on] at stages
    obtain ⟨joined, clause, middle, rfl, reached, leads⟩ :=
      Stage.exists_last_of_after? stages (by cases opening <;> nofun)
    obtain ⟨rfl, condition, parameters, rfl⟩ := Stage.eq_of_next?_joinOn leads
    obtain ⟨earlier, clause, _, rfl, _, leads⟩ := Stage.exists_last_of_after? reached (by cases opening <;> nofun)
    obtain ⟨table, name?, kind, rfl⟩ := Stage.eq_of_next?_join leads
    rw [List.append_assoc, List.foldl_append] at query
    rw [List.append_assoc]
    exact ⟨_, .condition earlier table name? kind condition parameters _, query⟩

theorem query?_behind_hint {middle : Statement} (present : middle.session.query? = some text)
    (added : middle.addAll? (.withNoLock :: after) = some (.ok t, left)) :
    t.session.query? = some (text ++ " WITH (NOLOCK)" ++ String.join (after.map Clause.fragment)) := by
  obtain ⟨next, hint, _, _⟩ := addAll?_cons_eq_ok added
  have front : middle.stage.isFront = false := by
    rcases Stage.takes_hint hint with stage | stage <;> rw [stage] <;> rfl
  have behind := Stage.editsFront_eq_false (after?_addAll? added) front
  rw [query?_addAll? present added, Clause.foldl_rewrite_eq_append behind, List.map_cons, String.join_cons,
    ← String.append_assoc]
  rfl

/-- A hint of a chain stands behind what the clauses before it come to, and before what the others add. -/
theorem exists_beforeHint (written : (start s opening).addAll? clauses = some (.ok t, left))
    (split : clauses = before ++ .withNoLock :: after) :
    ∃ text, BeforeHint before text ∧ text? s opening before = some text ∧
      t.session.query? = some (text ++ " WITH (NOLOCK)" ++ String.join (after.map Clause.fragment)) := by
  rw [split] at written
  obtain ⟨middle, left', added, later⟩ := exists_of_addAll?_append written
  obtain ⟨next, hint, _, _⟩ := addAll?_cons_eq_ok later
  obtain ⟨text, place, query⟩ := beforeHint added hint
  exact ⟨text, place, (text?_eq added).trans query, query?_behind_hint query later⟩

theorem not_hintsOnSources {on : String} {parameters : Parameters}
    (follows : [.joinOn on parameters, .withNoLock] <:+: clauses) : ¬HintsOnSources s opening clauses := by
  intro sits
  obtain ⟨earlier, after, split⟩ := follows
  obtain ⟨_, last, source, _, _, same, names, _⟩ := sits (earlier ++ [.joinOn on parameters]) after (by simp [← split])
  cases (List.append_inj' same rfl).2
  cases names

/-- Whatever clauses the stages admit, finished or not: a hint stands directly behind the table source of the FROM
or directly behind the whole condition of the join, never anywhere else; so all hints of a chain sit on table
sources exactly when none is asked for behind an ON. -/
theorem hintsOnSources_iff (written : (start s opening).addAll? clauses = some (.ok t, left)) :
    (∀ before after, clauses = before ++ .withNoLock :: after →
      ∃ text, BeforeHint before text ∧ text? s opening before = some text ∧
        t.session.query? = some (text ++ " WITH (NOLOCK)" ++ String.join (after.map Clause.fragment))) ∧
    (HintsOnSources s opening clauses ↔
      ∀ on parameters, ¬[.joinOn on parameters, .withNoLock] <:+: clauses) := by
  refine ⟨fun before after split => exists_beforeHint written split, ?_, ?_⟩
  · intro sits on parameters follows
    exact not_hintsOnSources follows sits
  · intro apart before after split
    obtain ⟨text, place, upTo, query⟩ := exists_beforeHint written split
    rw [← text?_eq written] at query
    cases place with
    | source earlier table name? front =>
      rw [← String.append_assoc] at upTo query
      exact ⟨earlier, _, _, _, _, rfl, rfl, upTo, query⟩
    | condition earlier table name? kind on parameters front =>
      exact absurd ⟨earlier ++ [.join table name? kind], after, by simp [split]⟩ (apart on parameters)

/-- A hint on the table of the FROM, in front of a join. -/
theorem hintsOnSources_iff_first :
    let clauses : List Clause :=
      [.fromTable "Users" (some "u"), .withNoLock, .join "Orders" none .left, .joinOn "Orders.UserId = u.Id" .empty]
    HintsOnSources (.new "") .selectAll clauses ∧
      text? (.new "") .selectAll clauses =
        some "SELECT * FROM Users u WITH (NOLOCK) LEFT JOIN Orders ON Orders.UserId = u.Id" := by
  intro clauses
  obtain ⟨t, left, written, query⟩ : ∃ t left, (start (.new "") .selectAll).addAll? clauses = some (.ok t, left) ∧
      t.session.query? = some "SELECT * FROM Users u WITH (NOLOCK) LEFT JOIN Orders ON Orders.UserId = u.Id" :=
    ⟨_, _, rfl, by decide +kernel⟩
  refine ⟨(hintsOnSources_iff written).2.mpr ?_, (text?_eq written).trans query⟩
  intro on parameters
  simp [clauses, List.infix_cons_iff]

/-- A hint that is asked for behind a join stands behind its condition, where no table source is. -/
theorem hint_follows_condition :
    let clauses : List Clause :=
      [.fromTable "A" none, .join "B" none .inner, .joinOn "B.a = A.id" .empty, .withNoLock]
    text? (.new "") .selectAll clauses = some "SELECT * FROM A INNER JOIN B ON B.a = A.id WITH (NOLOCK)" ∧
      ¬HintsOnSources (.new "") .selectAll clauses := by
  exact ⟨by decide +kernel, not_hintsOnSources ⟨[.fromTable "A" none, .join "B" none .inner], [], rfl⟩⟩

end Statement

end TypedSql
