import TypedSql.Proofs.Session.Account
import TypedSql.Proofs.Statement.Called
import TypedSql.Proofs.Statement.Wording

namespace TypedSql

variable {σ α : Type} {s left : Session} {t longer : Statement} {opening : Opening} {clause : Clause}
  {clauses : List Clause} {next : Stage} {answer : Except Failure Statement}

/-- The word that a text starts with. -/
def Opening.keyword? : Opening → Option String
  | .select _ => some "SELECT"
  | .selectAll => some "SELECT"
  | .insertInto _ => some "INSERT INTO"
  | .update _ => some "UPDATE"
  | .deleteFrom _ => some "DELETE FROM"
  | .procedure _ => none

/-- A clause that is a part of a call. -/
def Clause.isCall : Clause → Bool
  | .withParameter _ _ => true
  | .withParameters _ => true
  | .withFieldsOf _ => true
  | .withOutputs _ => true
  | _ => false

namespace Stage

/-- A stage of a text before anything is bound. -/
def isUnbound : Stage → Bool
  | .select | .distinct | .top | .selectFrom | .selectFromNoLock | .join | .insert | .update | .delete => true
  | _ => false

/-- A stage at which the front of a text may still be edited. -/
def isFront : Stage → Bool
  | .select | .distinct => true
  | _ => false

theorem isCall_of_next? {stage : Stage} (h : stage.next? clause = some next) :
    clause.isCall = stage.isProcedure := by
  unfold next? at h
  split at h
  all_goals cases h
  all_goals rfl

theorem isCall_of_after? {stage last : Stage} (h : stage.after? clauses = some last) :
    ∀ clause ∈ clauses, clause.isCall = stage.isProcedure := by
  induction clauses generalizing stage with
  | nil => exact fun _ mem => absurd mem List.not_mem_nil
  | cons clause rest ih =>
    obtain ⟨next, step, later⟩ := after?_cons h
    have same := ih later
    rw [isProcedure_next? step] at same
    exact List.forall_mem_cons.mpr ⟨isCall_of_next? step, same⟩

end Stage

namespace Clause

/-- What is no part of a call leaves the call alone, even where it fails. -/
theorem procedure?_perform (text : clause.isCall = false) (s : Session) :
    (clause.perform s).2.procedure? = s.procedure? := by
  cases clause with
  | joinOn condition parameters => exact s.procedure?_addCondition _ _ _
  | filter condition parameters => exact s.procedure?_addCondition _ _ _
  | having condition parameters => exact s.procedure?_addCondition _ _ _
  | insertValues parameters =>
    simp only [perform]
    split
    · rfl
    · exact Session.procedure?_bindAll _ _
  | updateSet parameters =>
    simp only [perform]
    split
    · rfl
    · exact Session.procedure?_bindAll _ _
  | withParameter name value => cases text
  | withParameters parameters => cases text
  | withFieldsOf payload => cases text
  | withOutputs outputs => cases text
  | _ => rfl

/-- A part of a call leaves the text and what is bound to it alone, even where it fails. -/
theorem query?_perform_call (call : clause.isCall = true) (s : Session) :
    (clause.perform s).2.query? = s.query? ∧ (clause.perform s).2.parameters = s.parameters := by
  cases clause with
  | withParameter name value => exact ⟨rfl, rfl⟩
  | withParameters parameters => exact ⟨rfl, rfl⟩
  | withFieldsOf payload =>
    simp only [perform]
    split <;> exact ⟨rfl, rfl⟩
  | withOutputs outputs => exact ⟨rfl, rfl⟩
  | _ => cases call

/-- A clause that edits the front of the text. -/
def editsFront : Clause → Bool
  | .distinct => true
  | .top _ => true
  | _ => false

theorem rewrite_eq_append (behind : clause.editsFront = false) (text : String) :
    clause.rewrite text = text ++ clause.fragment := by
  cases clause <;> first | rfl | cases behind

theorem foldl_rewrite_eq_append (behind : ∀ clause ∈ clauses, clause.editsFront = false) (text : String) :
    clauses.foldl rewrite text = text ++ String.join (clauses.map fragment) := by
  induction clauses generalizing text with
  | nil => rw [List.foldl_nil, List.map_nil, String.join_nil, String.append_empty]
  | cons clause rest ih =>
    rw [List.foldl_cons, rewrite_eq_append (behind clause List.mem_cons_self),
      ih fun other mem => behind other (List.mem_cons_of_mem _ mem), List.map_cons, String.join_cons,
      String.append_assoc]

/-- A text keeps the word it starts with: only a SELECT has its front edited. -/
theorem exists_rewrite {keyword : String} (front : clause.editsFront = true → keyword = "SELECT")
    (rest : String) : ∃ rest', clause.rewrite (keyword ++ " " ++ rest) = keyword ++ " " ++ rest' := by
  cases clause with
  | distinct =>
    rw [front rfl]
    refine ⟨"DISTINCT " ++ rest, (Keyword.editFirst_addDistinct rest).trans ?_⟩
    rw [← String.append_assoc]
    rfl
  | top rows =>
    rw [front rfl]
    have limited := Keyword.editFirst_addTop rows rest
    cases behind : Keyword.behindDistinct? rest with
    | some further =>
      rw [behind] at limited
      refine ⟨"DISTINCT TOP " ++ toString rows ++ further, limited.trans ?_⟩
      simp only [← String.append_assoc]
      rfl
    | none =>
      rw [behind] at limited
      refine ⟨"TOP " ++ toString rows ++ " " ++ rest, limited.trans ?_⟩
      simp only [← String.append_assoc]
      rfl
  | _ => exact ⟨rest ++ _, String.append_assoc⟩

end Clause

namespace Stage

theorem isFront_of_next? {stage : Stage} (h : stage.next? clause = some next)
    (edits : clause.editsFront = true) : stage.isFront = true := by
  unfold next? at h
  split at h
  all_goals first | rfl | cases edits | cases h

theorem isFront_of_isFront_next? {stage : Stage} (h : stage.next? clause = some next)
    (front : next.isFront = true) : stage.isFront = true := by
  unfold next? at h
  split at h
  all_goals cases h
  all_goals first | rfl | cases front

theorem isFront_next?_eq_false {stage : Stage} (h : stage.next? clause = some next)
    (behind : clause.editsFront = false) : next.isFront = false := by
  unfold next? at h
  split at h
  all_goals cases h
  all_goals first | rfl | cases behind

/-- Behind the front no clause edits it any more. -/
theorem editsFront_eq_false {stage last : Stage} (h : stage.after? clauses = some last)
    (front : stage.isFront = false) : ∀ clause ∈ clauses, clause.editsFront = false := by
  induction clauses generalizing stage with
  | nil => exact fun _ mem => absurd mem List.not_mem_nil
  | cons clause rest ih =>
    obtain ⟨next, step, later⟩ := after?_cons h
    have own : clause.editsFront = false := by
      cases edits : clause.editsFront with
      | false => rfl
      | true => rw [isFront_of_next? step edits] at front; cases front
    exact List.forall_mem_cons.mpr ⟨own, ih later (isFront_next?_eq_false step own)⟩

theorem isUnbound_of_isUnbound_next? {stage : Stage} (h : stage.next? clause = some next)
    (unbound : next.isUnbound = true) : stage.isUnbound = true ∧ ∀ s, (clause.perform s).2.parameters = s.parameters := by
  unfold next? at h
  split at h
  all_goals cases h
  all_goals first | exact ⟨rfl, fun _ => rfl⟩ | cases unbound

end Stage

namespace Session

/-- A session does not hold a text and a call at once. -/
def OneMode (s : Session) : Prop := s.query? = none ∨ s.procedure? = none

/-- A session holds what a stage stands for: a text and no call, or a call and neither a text nor
anything bound to one. -/
def Holds (s : Session) (stage : Stage) : Prop :=
  if stage.isProcedure then s.query? = none ∧ s.parameters = .empty else s.procedure? = none

theorem Holds.oneMode {stage : Stage} (h : s.Holds stage) : s.OneMode := by
  unfold Holds at h
  split at h
  · exact Or.inl h.1
  · exact Or.inr h

end Session

theorem Opening.holds_perform (s : Session) (opening : Opening) : (opening.perform s).Holds opening.stage := by
  cases opening with
  | procedure name => exact ⟨rfl, rfl⟩
  | _ => exact rfl

/-- Whatever comes of a clause, the session is left in the mode it was in. -/
theorem Clause.holds_perform {stage : Stage} (h : s.Holds stage) (step : stage.next? clause = some next) :
    (clause.perform s).2.Holds next := by
  have mode := Stage.isCall_of_next? step
  unfold Session.Holds at h ⊢
  rw [Stage.isProcedure_next? step]
  cases procedure : stage.isProcedure with
  | true =>
    rw [procedure] at h mode
    obtain ⟨text, bound⟩ := query?_perform_call mode s
    exact ⟨text.trans h.1, bound.trans h.2⟩
  | false =>
    rw [procedure] at h mode
    exact (procedure?_perform mode s).trans h

namespace Statement

/-- Whether the clauses go in or one of them fails, the session is left in one mode. -/
theorem holds_addAll? (added : (start s opening).addAll? clauses = some (answer, left)) :
    left.OneMode ∧ ∀ longer, answer = .ok longer → longer.session.Holds longer.stage := by
  obtain ⟨⟨_, held⟩, longer⟩ := addAll?_keeps (motive := fun stage s => s.Holds stage)
    (fun step held => Clause.holds_perform held step) (opening.holds_perform s) added
  exact ⟨held.oneMode, longer⟩

theorem keyword_addAll? {keyword : String} (front : t.stage.isFront = true → keyword = "SELECT")
    (starts : ∃ rest, t.session.query? = some (keyword ++ " " ++ rest))
    (added : t.addAll? clauses = some (.ok longer, left)) :
    ∃ rest, longer.session.query? = some (keyword ++ " " ++ rest) := by
  induction clauses generalizing t with
  | nil => rwa [addAll?_nil_eq_ok added]
  | cons clause rest ih =>
    obtain ⟨next, step, ok, later⟩ := addAll?_cons_eq_ok added
    obtain ⟨text, present⟩ := starts
    obtain ⟨text', rewritten⟩ :=
      Clause.exists_rewrite (fun edits => front (Stage.isFront_of_next? step edits)) text
    refine ih (fun early => front (Stage.isFront_of_isFront_next? step early)) ⟨text', ?_⟩ later
    exact (Clause.query?_perform present ok).trans (congrArg some rewritten)

theorem unbound_addAll? (h : t.stage.isUnbound = true → t.session.parameters = .empty)
    (added : t.addAll? clauses = some (.ok longer, left)) (unbound : longer.stage.isUnbound = true) :
    longer.session.parameters = .empty := by
  refine (addAll?_keeps (motive := fun stage s => stage.isUnbound = true → s.parameters = .empty)
    (fun step bare early => ?_) h added).2 longer rfl unbound
  obtain ⟨before, kept⟩ := Stage.isUnbound_of_isUnbound_next? step early
  exact (kept _).trans (bare before)

/-- A statement as its stage says it is: a text that starts with the word of its opening, or a call by the
name of its opening. -/
structure Stands (t : Statement) (opening : Opening) : Prop where
  text : t.stage.isProcedure = false → ∃ keyword rest, opening.keyword? = some keyword ∧
    t.session.query? = some (keyword ++ " " ++ rest) ∧ t.session.procedure? = none
  call : t.stage.isProcedure = true → ∃ name call, opening = .procedure name ∧
    t.session.procedure? = some call ∧ call.name = name ∧ t.session.query? = none ∧
    t.session.parameters = .empty
  unbound : t.stage.isUnbound = true → t.session.parameters = .empty

theorem keyword_start (s : Session) (text : opening.stage.isProcedure = false) :
    ∃ keyword, opening.keyword? = some keyword ∧ (opening.stage.isFront = true → keyword = "SELECT") ∧
      ∃ rest, (opening.perform s).query? = some (keyword ++ " " ++ rest) := by
  cases opening with
  | select columns => exact ⟨"SELECT", rfl, fun _ => rfl, listed columns, rfl⟩
  | selectAll => exact ⟨"SELECT", rfl, fun _ => rfl, "*", rfl⟩
  | insertInto table => exact ⟨"INSERT INTO", rfl, nofun, table, rfl⟩
  | update table => exact ⟨"UPDATE", rfl, nofun, table, rfl⟩
  | deleteFrom table => exact ⟨"DELETE FROM", rfl, nofun, table, rfl⟩
  | procedure name => cases text

theorem stands_written (written : (start s opening).addAll? clauses = some (.ok t, left)) :
    t.Stands opening := by
  have held := (holds_addAll? written).2 t rfl
  have stage : t.stage.isProcedure = opening.stage.isProcedure := isProcedure_addAll? written
  unfold Session.Holds at held
  refine ⟨fun text => ?_, fun procedure => ?_, unbound_addAll? (fun _ => ?_) written⟩
  · rw [text] at held
    obtain ⟨keyword, word, front, starts⟩ := keyword_start s (stage.symm.trans text)
    obtain ⟨rest, query⟩ := keyword_addAll? front starts written
    exact ⟨keyword, rest, word, query, held⟩
  · rw [procedure] at held
    cases opening with
    | procedure name =>
      obtain ⟨call, present, holds⟩ := calls_written written
      exact ⟨name, call, rfl, present, holds.name_eq, held⟩
    | _ => cases stage.symm.trans procedure
  · cases opening <;> rfl

/-- What a clause or a terminal needs is there where the stage admits it. -/
theorem Stands.subject {terminal : Terminal α} (h : t.Stands opening)
    (admitted : terminal.admitted t.stage = true) (timeout : Option Nat) :
    ∃ command, t.session.command timeout terminal.subject = .ok command ∧
      if t.stage.isProcedure then
        opening = .procedure command.text ∧ t.session.procedureName? = some command.text
      else t.session.query? = some command.text := by
  rw [Terminal.subject_of_admitted admitted]
  cases procedure : t.stage.isProcedure with
  | true =>
    obtain ⟨name, call, opened, present, rfl, _⟩ := h.call procedure
    refine ⟨call.command timeout, ?_, opened, ?_⟩
    · simp only [if_true, Session.command, present]
    · simp only [Session.procedureName?, present, Option.map_some]
      rfl
  | false =>
    obtain ⟨keyword, rest, _, query, _⟩ := h.text procedure
    refine ⟨.statement (keyword ++ " " ++ rest) t.session.parameters timeout, ?_, query⟩
    simp only [Bool.false_eq_true, if_false, Session.command, Session.query, query, Option.getD_some]

theorem Stands.isSome_of_next? (h : t.Stands opening) (step : t.stage.next? clause = some next) :
    if clause.isCall then t.session.procedure?.isSome = true else t.session.query?.isSome = true := by
  rw [Stage.isCall_of_next? step]
  split
  next procedure =>
    obtain ⟨_, call, _, present, _⟩ := h.call procedure
    rw [present]
    rfl
  next text =>
    obtain ⟨_, _, _, present, _⟩ := h.text (by simpa using text)
    rw [present]
    rfl

end Statement

namespace Session

theorem SameStatement.oneMode {s' : Session} (same : s.SameStatement s') (h : s.OneMode) : s'.OneMode := by
  unfold OneMode
  rw [same.query?_eq, same.procedure?_eq]
  exact h

variable {layer : DataLayer σ} {w : World σ}

theorem Started.sameStatement {r : (Except Failure Unit × Session) × World σ} (h : Started layer s w r) :
    s.SameStatement r.1.2 := by
  cases h <;> exact ⟨rfl, rfl, rfl⟩

theorem Ended.sameStatement {call : Call} {r : (Except Failure Unit × Session) × World σ}
    (h : s.Ended call w r) : s.SameStatement r.1.2 := by
  cases h <;> exact ⟨rfl, rfl, rfl⟩

end Session

namespace Use

def isWrite : Use α → Bool
  | .write _ _ _ => true
  | _ => false

/-- Only a statement that is written changes the statement that a session holds. -/
theorem sameStatement_perform (settled : s.Settled) {use : Use α} (apart : use.isWrite = false)
    (layer : DataLayer σ) (w : World σ) : s.SameStatement (use.perform layer s w).1.2 := by
  cases use with
  | begin => exact (settled.started_begin layer w).sameStatement
  | commit => exact (settled.ended_commit layer w).sameStatement
  | rollback => exact (settled.ended_rollback layer w).sameStatement
  | write opening clauses terminal? => cases apart
  | _ => exact ⟨rfl, rfl, rfl⟩

theorem session_write {terminal? : Option (Statement.Terminal α)} (layer : DataLayer σ) (w : World σ)
    (added : (Statement.start s opening).addAll? clauses = some (answer, left)) :
    ((write opening clauses terminal?).perform layer s w).1.2 =
      match answer with
      | .ok t => t.session
      | .error _ => left := by
  simp only [perform, added]
  cases answer with
  | error failure => rfl
  | ok t =>
    simp only
    cases terminal?.bind (t.finish? layer) <;> rfl

theorem oneMode_perform (h : s.OneMode) (settled : s.Settled) (use : Use α) (layer : DataLayer σ)
    (w : World σ) : (use.perform layer s w).1.2.OneMode := by
  cases use with
  | write opening clauses terminal? =>
    have goes := written layer s opening clauses terminal? w
    generalize (write opening clauses terminal?).perform layer s w = r at goes ⊢
    generalize (write opening clauses terminal?).call? s w.timeout? = call? at goes
    cases goes with
    | unadmitted added => exact h
    | failed added => exact (Statement.holds_addAll? added).1
    | unrun added unasked => exact ((Statement.holds_addAll? added).2 _ rfl).oneMode
    | run added asked admitted => exact ((Statement.holds_addAll? added).2 _ rfl).oneMode
  | _ => exact (sameStatement_perform settled rfl layer w).oneMode h

theorem oneMode_performAll (h : s.OneMode) (settled : s.Settled) (layer : DataLayer σ) (uses : List (Use α))
    (w : World σ) : (performAll layer s uses w).1.OneMode := by
  induction uses generalizing s w with
  | nil => exact h
  | cons use rest ih =>
    obtain ⟨_, moved⟩ := perform_moved settled layer use w
    exact ih (oneMode_perform h settled use layer w) moved.settled (use.perform layer s w).2

end Use

/-- Whatever was done with a session before, it holds no text and call at once, and it never does while a
statement is written or when a clause of it fails. At a stage of a text the text is there, starts with the
word of its opening and stands beside no call; at a stage of a call the call is there by the name it was
opened with, and nothing else is; before its first condition a text has nothing bound. So every clause that
a stage admits finds the text or the call that it extends, and every terminal the one that it runs. -/
theorem Session.performAll_oneMode (layer : DataLayer σ) (target : String) (uses : List (Use α)) (w : World σ) :
    let s := (Use.performAll layer (.new target) uses w).1
    s.OneMode ∧ ∀ opening clauses answer left,
      (Statement.start s opening).addAll? clauses = some (answer, left) →
        left.OneMode ∧ ∀ t, answer = .ok t →
          t.session.OneMode ∧ t.Stands opening ∧
          (∀ clause next, t.stage.next? clause = some next →
            if clause.isCall then t.session.procedure?.isSome = true
            else t.session.query?.isSome = true) ∧
          ∀ (terminal : Statement.Terminal α) timeout, terminal.admitted t.stage = true →
            ∃ command, t.session.command timeout terminal.subject = .ok command ∧
              if t.stage.isProcedure then
                opening = .procedure command.text ∧ t.session.procedureName? = some command.text
              else t.session.query? = some command.text := by
  intro s
  refine ⟨Use.oneMode_performAll (Or.inl rfl) (settled_new target) layer uses w, ?_⟩
  intro opening clauses answer left added
  obtain ⟨failed, held⟩ := Statement.holds_addAll? added
  refine ⟨failed, ?_⟩
  rintro t rfl
  have stands := Statement.stands_written added
  exact ⟨(held t rfl).oneMode, stands, fun _ _ step => stands.isSome_of_next? step,
    fun _ timeout admitted => stands.subject admitted timeout⟩

end TypedSql
