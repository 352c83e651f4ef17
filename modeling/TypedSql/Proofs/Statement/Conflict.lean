import TypedSql.Proofs.Binding.Union
import TypedSql.Proofs.Payload
import TypedSql.Proofs.Statement.Mode
import TypedSql.Proofs.Statement.Sentence

namespace TypedSql

variable {s left : Session} {parameters : Parameters} {clause : Clause} {clauses clauses' : List Clause}
  {failure : Failure} {pairs : List (String × Value)} {t longer : Statement} {next last : Stage}
  {opening opening' : Opening}

namespace Session

theorem bindAll_ok_iff : (s.bindAll parameters).1 = .ok () ↔ Agree s.parameters.entries parameters.entries := by
  rw [← Parameters.exists_mergeDisjoint_iff, bindAll]
  cases s.parameters.mergeDisjoint parameters with
  | ok held => simp
  | error failure => simp

/-- Parameters that are refused leave the session as it was, and the first of them that disagrees is named. -/
theorem bindAll_refused (failed : (s.bindAll parameters).1 = .error failure) :
    (s.bindAll parameters).2 = s ∧ s.parameters.mergeDisjoint parameters = .error failure := by
  unfold bindAll at failed ⊢
  split at failed
  next => cases failed
  next refusal merged =>
    cases failed
    simp only [merged, and_self]

theorem boundDifferently_of_bindAll (failed : (s.bindAll parameters).1 = .error failure) :
    ∃ name, failure = .boundDifferently name := by
  obtain ⟨_, entry, _, _, _, _, named⟩ := Parameters.mergeDisjoint_eq_error_iff.mp (bindAll_refused failed).2
  exact ⟨entry.1, named⟩

theorem addCondition_answer (s : Session) (keyword condition : String) (parameters : Parameters) :
    (s.addCondition keyword condition parameters).1 = (s.bindAll parameters).1 := by
  unfold addCondition
  split
  next bound => rw [bound]
  next refused => rw [refused]

end Session

namespace Clause

/-- A clause that goes in unless it binds a name differently. -/
def isFilled : Clause → Bool
  | .insertValues parameters => !parameters.isEmpty
  | .updateSet parameters => !parameters.isEmpty
  | .withFieldsOf _ => false
  | _ => true

/-- Whether a filled clause goes in, and why it does not, is decided by what it binds. -/
theorem perform_answer (filled : clause.isFilled = true) (s : Session) :
    (clause.perform s).1 = .ok () ∧ clause.bound = [] ∨
      ∃ s' parameters, clause.bound = parameters.entries ∧ s'.parameters = s.parameters ∧
        (clause.perform s).1 = (Session.bindAll s' parameters).1 := by
  cases clause with
  | joinOn condition parameters => exact .inr ⟨s, parameters, rfl, rfl, s.addCondition_answer _ _ _⟩
  | filter condition parameters => exact .inr ⟨s, parameters, rfl, rfl, s.addCondition_answer _ _ _⟩
  | having condition parameters => exact .inr ⟨s, parameters, rfl, rfl, s.addCondition_answer _ _ _⟩
  | insertValues parameters =>
    have some : ¬parameters.isEmpty = true := by simpa [isFilled] using filled
    exact .inr ⟨s.append (valuesText parameters), parameters, rfl, rfl, by simp only [perform, if_neg some]⟩
  | updateSet parameters =>
    have some : ¬parameters.isEmpty = true := by simpa [isFilled] using filled
    exact .inr ⟨s.append (setText parameters), parameters, rfl, rfl, by simp only [perform, if_neg some]⟩
  | withFieldsOf payload => cases filled
  | _ => exact .inl ⟨rfl, rfl⟩

theorem perform_ok_iff (filled : clause.isFilled = true) :
    (clause.perform s).1 = .ok () ↔ Agree s.parameters.entries clause.bound := by
  rcases perform_answer filled s with ⟨ok, nothing⟩ | ⟨s', parameters, bound, same, answer⟩
  · simp [ok, nothing, Agree]
  · rw [answer, Session.bindAll_ok_iff, bound, same]

theorem boundDifferently_of_perform (filled : clause.isFilled = true)
    (failed : (clause.perform s).1 = .error failure) : ∃ name, failure = .boundDifferently name := by
  rcases perform_answer filled s with ⟨ok, _⟩ | ⟨s', parameters, _, _, answer⟩
  · rw [ok] at failed
    cases failed
  · exact Session.boundDifferently_of_bindAll (answer ▸ failed)

end Clause

namespace Statement

theorem addAll?_cons_of_ok (step : t.stage.next? clause = some next) (ok : (clause.perform t.session).1 = .ok ())
    (rest : List Clause) : t.addAll? (clause :: rest) = addAll? ⟨next, (clause.perform t.session).2⟩ rest := by
  simp only [addAll?, add?, step, Option.map_some, ok, Except.map]

theorem addAll?_cons_of_error (step : t.stage.next? clause = some next)
    (failed : (clause.perform t.session).1 = .error failure) (rest : List Clause) :
    t.addAll? (clause :: rest) = some (.error failure, (clause.perform t.session).2) := by
  simp only [addAll?, add?, step, Option.map_some, failed, Except.map]

/-- A chain in which a clause fails because a name is bound differently. -/
def Conflicts (t : Statement) (clauses : List Clause) : Prop :=
  ∃ name left, t.addAll? clauses = some (.error (.boundDifferently name), left)

/-- What clauses bind agrees with what is bound, and with what the other clauses bind. -/
def AllAgree (pairs : List (String × Value)) (clauses : List Clause) : Prop :=
  (∀ clause ∈ clauses, Agree pairs clause.bound) ∧ clauses.Pairwise fun a b => Agree a.bound b.bound

theorem allAgree_cons_iff : AllAgree pairs (clause :: clauses) ↔
    Agree pairs clause.bound ∧ AllAgree (pairs ++ clause.bound) clauses := by
  simp only [AllAgree, List.forall_mem_cons, List.pairwise_cons, Agree.append_left_iff, forall_and]
  exact ⟨fun ⟨⟨own, later⟩, here, rest⟩ => ⟨own, ⟨later, here⟩, rest⟩,
    fun ⟨own, ⟨later, here⟩, rest⟩ => ⟨⟨own, later⟩, here, rest⟩⟩

theorem allAgree_nil_iff : AllAgree [] clauses ↔ clauses.Pairwise fun a b => Agree a.bound b.bound := by
  simp [AllAgree, Agree]

/-- Clauses go in, or they come to a conflict, by whether all agree. -/
theorem goes_or_conflicts (after : t.stage.after? clauses = some last)
    (filled : ∀ clause ∈ clauses, clause.isFilled = true) (held : t.session.parameters.Collects pairs) :
    (AllAgree pairs clauses ∧ ∃ longer left, t.addAll? clauses = some (.ok longer, left)) ∨
      (¬AllAgree pairs clauses ∧ t.Conflicts clauses) := by
  induction clauses generalizing t pairs with
  | nil => exact .inl ⟨⟨by simp, .nil⟩, _, _, rfl⟩
  | cons clause rest ih =>
    obtain ⟨next, step, later⟩ := Stage.after?_cons after
    have own : clause.isFilled = true := filled clause List.mem_cons_self
    have agrees : (clause.perform t.session).1 = .ok () ↔ Agree pairs clause.bound :=
      (Clause.perform_ok_iff own).trans held.agree_iff
    cases answer : (clause.perform t.session).1 with
    | ok _ =>
      have agree : Agree pairs clause.bound := agrees.mp answer
      have whole : AllAgree pairs (clause :: rest) ↔ AllAgree (pairs ++ clause.bound) rest := by
        rw [allAgree_cons_iff, and_iff_right agree]
      rw [whole, Conflicts, addAll?_cons_of_ok step answer]
      exact ih later (fun c mem => filled c (List.mem_cons_of_mem _ mem)) (Clause.collects_perform held answer)
    | error failure =>
      have clash : ¬Agree pairs clause.bound := fun agree => by
        rw [agrees.mpr agree] at answer
        cases answer
      obtain ⟨name, rfl⟩ := Clause.boundDifferently_of_perform own answer
      refine .inr ⟨fun all => clash (allAgree_cons_iff.mp all).1, name, (clause.perform t.session).2, ?_⟩
      exact addAll?_cons_of_error step answer rest

theorem conflicts_iff_of_filled (legal : opening.stage.after? clauses = some last)
    (filled : ∀ clause ∈ clauses, clause.isFilled = true) :
    (start s opening).Conflicts clauses ↔ ¬clauses.Pairwise fun a b => Agree a.bound b.bound := by
  have nothing : (start s opening).session.parameters.Collects [] := opening.collects_perform s
  rw [← allAgree_nil_iff]
  rcases goes_or_conflicts legal filled nothing with ⟨agree, longer, left, goes⟩ | ⟨clash, conflicts⟩
  · refine iff_of_false ?_ (not_not_intro agree)
    rintro ⟨name, left', refused⟩
    rw [goes] at refused
    cases refused
  · exact iff_of_true conflicts clash

end Statement

/-! A clause that is not filled fails for another reason, and then no two clauses of its chain bind a name. -/

theorem noColumns_ne_boundDifferently (clause name : String) :
    Failure.noColumns clause ≠ .boundDifferently name := by
  intro same
  have ends := congrArg (fun text => text.toList.getLast?) (Failure.argument.inj same)
  simp at ends

namespace Clause

theorem bound_of_isCall (call : clause.isCall = true) : clause.bound = [] := by
  cases clause <;> first | rfl | cases call

theorem ne_boundDifferently_of_isCall (call : clause.isCall = true) (s : Session) (name : String) :
    (clause.perform s).1 ≠ .error (.boundDifferently name) := by
  intro failed
  cases clause with
  | withFieldsOf payload =>
    simp only [perform] at failed
    split at failed
    next => cases failed
    next failure refused =>
      cases document : payload.toJson with
      | error flaw =>
        rw [document] at refused
        cases refused
        rcases Payload.eq_of_toJson payload document with rfl | rfl <;> cases failed
      | ok document' =>
        rw [document] at refused
        cases document' <;> cases refused <;> cases failed
  | _ => first | cases failed | cases call

end Clause

namespace Stage

variable {stage : Stage}

/-- A stage at which a clause may come that is not filled. -/
def isFilling : Stage → Bool
  | .insert | .update | .storedProcedure | .storedProcedureParameters | .storedProcedureOutput => true
  | _ => false

theorem isFilled_of_next? (step : stage.next? clause = some next) (past : stage.isFilling = false) :
    clause.isFilled = true ∧ next.isFilling = false := by
  unfold next? at step
  split at step
  all_goals cases step
  all_goals first | exact ⟨rfl, rfl⟩ | cases past

theorem isFilled_of_after? (legal : stage.after? clauses = some last) (past : stage.isFilling = false) :
    ∀ clause ∈ clauses, clause.isFilled = true := by
  induction clauses generalizing stage with
  | nil => simp
  | cons first rest ih =>
    obtain ⟨next, step, later⟩ := after?_cons legal
    obtain ⟨filled, past'⟩ := isFilled_of_next? step past
    exact List.forall_mem_cons.mpr ⟨filled, ih later past'⟩

end Stage

namespace Statement

theorem exists_failed_of_addAll? (refused : t.addAll? clauses = some (.error failure, left)) :
    ∃ clause ∈ clauses, ∃ s, (clause.perform s).1 = .error failure := by
  induction clauses generalizing t with
  | nil => cases refused
  | cons clause rest ih =>
    cases step : t.stage.next? clause with
    | none => simp [addAll?, add?, step] at refused
    | some next =>
      cases answer : (clause.perform t.session).1 with
      | ok _ =>
        rw [addAll?_cons_of_ok step answer] at refused
        obtain ⟨clause', mem, s, failed⟩ := ih refused
        exact ⟨clause', List.mem_cons_of_mem _ mem, s, failed⟩
      | error failure' =>
        rw [addAll?_cons_of_error step answer] at refused
        cases refused
        exact ⟨clause, List.mem_cons_self, t.session, answer⟩

/-- A first clause without columns fails before anything is bound. -/
theorem not_conflicts_of_noColumns {word : String} (step : t.stage.next? clause = some next)
    (failed : (clause.perform t.session).1 = .error (.noColumns word)) (rest : List Clause) :
    ¬t.Conflicts (clause :: rest) := by
  rintro ⟨name, left, refused⟩
  rw [addAll?_cons_of_error step failed] at refused
  simp only [Option.some.injEq, Prod.mk.injEq, Except.error.injEq] at refused
  exact noColumns_ne_boundDifferently word name refused.1

theorem agree_of_calls (calls : ∀ clause ∈ clauses, clause.isCall = true) :
    (clauses.Pairwise fun a b => Agree a.bound b.bound) ∧ ¬t.Conflicts clauses := by
  refine ⟨List.pairwise_of_forall_mem_list fun a memA b _ => ?_, ?_⟩
  · rw [Clause.bound_of_isCall (calls a memA)]
    simp [Agree]
  · rintro ⟨name, left, refused⟩
    obtain ⟨clause, mem, s, failed⟩ := exists_failed_of_addAll? refused
    exact Clause.ne_boundDifferently_of_isCall (calls clause mem) s name failed

theorem agree_of_unfilled_insert (filling : t.stage = .insert) (legal : t.stage.after? clauses = some last)
    (mem : clause ∈ clauses) (unfilled : clause.isFilled = false) :
    (clauses.Pairwise fun a b => Agree a.bound b.bound) ∧ ¬t.Conflicts clauses := by
  cases clauses with
  | nil => cases mem
  | cons first rest =>
    obtain ⟨next, step, later⟩ := Stage.after?_cons legal
    have step' := filling ▸ step
    cases first with
    | insertValues parameters =>
      cases step'
      have final : ∀ clause, Stage.insertValues.next? clause = none := fun clause => by cases clause <;> rfl
      have none : rest = [] := Stage.eq_nil_of_after? later final
      subst none
      have empty : parameters.isEmpty = true := by
        rw [List.mem_singleton.mp mem] at unfilled
        simpa [Clause.isFilled] using unfilled
      have failed : ((Clause.insertValues parameters).perform t.session).1 = .error (.noColumns "values") := by
        simp only [Clause.perform, if_pos empty]
      exact ⟨List.pairwise_singleton _ _, not_conflicts_of_noColumns step failed []⟩
    | _ => cases step'

theorem agree_of_unfilled_update (filling : t.stage = .update) (legal : t.stage.after? clauses = some last)
    (mem : clause ∈ clauses) (unfilled : clause.isFilled = false) :
    (clauses.Pairwise fun a b => Agree a.bound b.bound) ∧ ¬t.Conflicts clauses := by
  cases clauses with
  | nil => cases mem
  | cons first rest =>
    obtain ⟨next, step, later⟩ := Stage.after?_cons legal
    have step' := filling ▸ step
    cases first with
    | updateSet parameters =>
      cases step'
      have own : clause = .updateSet parameters := by
        rcases List.mem_cons.mp mem with own | behind
        · exact own
        · rw [Stage.isFilled_of_after? later rfl clause behind] at unfilled
          cases unfilled
      have empty : parameters.isEmpty = true := by
        rw [own] at unfilled
        simpa [Clause.isFilled] using unfilled
      have nothing : parameters.entries = [] := List.isEmpty_iff.mp empty
      have failed : ((Clause.updateSet parameters).perform t.session).1 = .error (.noColumns "set") := by
        simp only [Clause.perform, if_pos empty]
      refine ⟨List.pairwise_cons.mpr ⟨fun b _ => ?_, ?_⟩, not_conflicts_of_noColumns step failed rest⟩
      · simp [Clause.bound, nothing, Agree]
      · obtain ⟨where?, rfl⟩ := Stage.eq_of_after?_updateSet later
        cases where? with
        | none => exact .nil
        | some condition => exact List.pairwise_singleton _ _
    | _ => cases step'

/-- A clause that is not filled stands first, or in a call. -/
theorem agree_of_unfilled (legal : opening.stage.after? clauses = some last) (mem : clause ∈ clauses)
    (unfilled : clause.isFilled = false) :
    (clauses.Pairwise fun a b => Agree a.bound b.bound) ∧ ¬(start s opening).Conflicts clauses := by
  have filling : opening.stage.isFilling = true := by
    cases past : opening.stage.isFilling with
    | true => rfl
    | false =>
      rw [Stage.isFilled_of_after? legal past clause mem] at unfilled
      cases unfilled
  cases opening with
  | insertInto table => exact agree_of_unfilled_insert rfl legal mem unfilled
  | update table => exact agree_of_unfilled_update rfl legal mem unfilled
  | procedure name => exact agree_of_calls (Stage.isCall_of_after? legal)
  | _ => cases filling

/-- A chain comes to a conflict exactly if two of its clauses bind a name to values that are not the same. -/
theorem conflicts_iff (legal : opening.stage.after? clauses = some last) :
    (start s opening).Conflicts clauses ↔ ¬clauses.Pairwise fun a b => Agree a.bound b.bound := by
  by_cases filled : ∀ clause ∈ clauses, clause.isFilled = true
  · exact conflicts_iff_of_filled legal filled
  · obtain ⟨clause, mem, unfilled⟩ : ∃ clause ∈ clauses, clause.isFilled = false := by simpa using filled
    obtain ⟨agree, goes⟩ := agree_of_unfilled legal mem unfilled
    exact iff_of_false goes (not_not_intro agree)

/-- Merging parameters that agree is a union, and what cannot be merged leaves the session as it was. A chain
comes to a conflict exactly if two of its clauses bind a name to values that are not the same. So clauses
that bind the same in another order come to a conflict as well or not at all, and what is bound in the end
is the same up to the order of the names. -/
theorem bindings_unite (p q r : Parameters) :
    p.Unite q r ∧
    (∀ s : Session, s.parameters = p → ∀ failure, (s.bindAll q).1 = .error failure →
      (s.bindAll q).2 = s ∧ p.mergeDisjoint q = .error failure) ∧
    ∀ (s : Session) (opening : Opening) (clauses : List Clause),
      (opening.stage.after? clauses).isSome = true →
      ((start s opening).Conflicts clauses ↔ ¬clauses.Pairwise fun a b => Agree a.bound b.bound) ∧
      ∀ (s' : Session) (opening' : Opening) (clauses' : List Clause),
        (opening'.stage.after? clauses').isSome = true →
        (clauses.map Clause.bound).Perm (clauses'.map Clause.bound) →
        ((start s opening).Conflicts clauses ↔ (start s' opening').Conflicts clauses') ∧
        ∀ t left t' left', (start s opening).addAll? clauses = some (.ok t, left) →
          (start s' opening').addAll? clauses' = some (.ok t', left') →
          t.session.parameters.Alike t'.session.parameters := by
  have pairwise : ∀ clauses : List Clause, (clauses.Pairwise fun a b => Agree a.bound b.bound) ↔
      (clauses.map Clause.bound).Pairwise Agree := fun clauses => List.pairwise_map.symm
  refine ⟨p.unite q r, ?_, ?_⟩
  · rintro s rfl failure refused
    exact Session.bindAll_refused refused
  · intro s opening clauses legal
    obtain ⟨last, after⟩ := Option.isSome_iff_exists.mp legal
    refine ⟨conflicts_iff after, fun s' opening' clauses' legal' same => ?_⟩
    obtain ⟨last', after'⟩ := Option.isSome_iff_exists.mp legal'
    refine ⟨?_, fun t left t' left' written written' => ?_⟩
    · rw [conflicts_iff after, conflicts_iff after', pairwise, pairwise, same.pairwise_iff Agree.symm]
    · have front := collects_written written
      have back := collects_written written'
      rw [List.flatMap_def] at front back
      exact front.alike back same.flatten

/-- The two zeros are the same number, and a number that is none is not the same as itself. -/
theorem bindings_unite_zeros :
    let p := Parameters.empty.bind "a" (.float (.zero false))
    let q := (Parameters.empty.bind "b" (.int 1)).bind "@a" (.float (.zero true))
    let r := Parameters.empty.bind "c" (.float .invalid)
    let chain := fun a b c : Parameters => [Clause.fromTable "T" none, .join "U" none .inner, .joinOn "x" a,
      .filter "y" b, .groupBy ["z"], .having "w" c]
    (∃ m m', p.mergeDisjoint q = .ok m ∧ q.mergeDisjoint p = .ok m' ∧ m.names = ["@a", "@b"] ∧
      m'.names = ["@b", "@a"] ∧ m.Alike m') ∧
    r.mergeDisjoint r = .error (.argument "@c is already bound to a different value") ∧
    ∃ t left, (start (.new "") .selectAll).addAll? (chain p q r) = some (.ok t, left) ∧
      ¬(start (.new "") .selectAll).Conflicts (chain q r p) := by
  intro p q r chain
  obtain ⟨unite, _, chains⟩ := bindings_unite p q r
  obtain ⟨m, m', merged, merged', names, names'⟩ : ∃ m m', p.mergeDisjoint q = .ok m ∧ q.mergeDisjoint p = .ok m' ∧
      m.names = ["@a", "@b"] ∧ m'.names = ["@b", "@a"] := ⟨_, _, rfl, rfl, by decide +kernel, by decide +kernel⟩
  obtain ⟨t, left, written⟩ : ∃ t left,
      (start (.new "") .selectAll).addAll? (chain p q r) = some (.ok t, left) := ⟨_, _, rfl⟩
  have same : ((chain p q r).map Clause.bound).Perm ((chain q r p).map Clause.bound) := by
    have last : ([p.entries] ++ [q.entries, [], r.entries]).Perm ([q.entries, [], r.entries] ++ [p.entries]) :=
      List.perm_append_comm
    exact .cons _ (.cons _ (last.trans (.cons _ (.swap _ _ _))))
  have goes : ¬(start (.new "") .selectAll).Conflicts (chain p q r) := by
    rintro ⟨name, left', refused⟩
    rw [written] at refused
    cases refused
  have order := (chains (.new "") .selectAll (chain p q r) rfl).2 (.new "") .selectAll (chain q r p) rfl same
  exact ⟨⟨m, m', merged, merged', names, names', unite.alike m m' merged merged'⟩, rfl, t, left, written,
    fun conflicts => goes (order.1.mpr conflicts)⟩

end Statement

end TypedSql
