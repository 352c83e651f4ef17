import Mathlib.Data.List.Forall2
import TypedSql.Proofs.Statement.Mode

namespace TypedSql

variable {s s' left left' : Session} {t t' : Statement} {opening : Opening} {clause clause' : Clause}
  {clauses clauses' : List Clause} {stage last : Stage}

/-- The names of the fields that some data has, where it has named fields. -/
def Payload.fields? (payload : Payload) : Option (List String) :=
  match payload.toJson.bind Parameters.ofJson with
  | .ok parameters => some parameters.names
  | .error _ => none

namespace Clause

/-- Two clauses that differ at most in the values that they give. -/
inductive Alike : Clause → Clause → Prop where
  | same (clause : Clause) : Alike clause clause
  | joinOn (condition : String) {p p' : Parameters} (names : p.names = p'.names) :
      Alike (.joinOn condition p) (.joinOn condition p')
  | filter (condition : String) {p p' : Parameters} (names : p.names = p'.names) :
      Alike (.filter condition p) (.filter condition p')
  | having (condition : String) {p p' : Parameters} (names : p.names = p'.names) :
      Alike (.having condition p) (.having condition p')
  | insertValues {p p' : Parameters} (names : p.names = p'.names) : Alike (.insertValues p) (.insertValues p')
  | updateSet {p p' : Parameters} (names : p.names = p'.names) : Alike (.updateSet p) (.updateSet p')
  | withParameter (name : String) (value value' : Value) :
      Alike (.withParameter name value) (.withParameter name value')
  | withParameters {p p' : Parameters} (names : p.names = p'.names) :
      Alike (.withParameters p) (.withParameters p')
  | withFieldsOf {payload payload' : Payload} (names : payload.fields? = payload'.fields?) :
      Alike (.withFieldsOf payload) (.withFieldsOf payload')

namespace Alike

theorem next?_eq (h : Alike clause clause') (stage : Stage) : stage.next? clause = stage.next? clause' := by
  cases h <;> cases stage <;> rfl

theorem rewrite_eq (h : Alike clause clause') (text : String) : clause.rewrite text = clause'.rewrite text := by
  cases h with
  | insertValues names => simp only [rewrite, fragment, valuesText, names]
  | updateSet names => simp only [rewrite, fragment, setText, names]
  | _ => rfl

theorem bound_eq (h : Alike clause clause') : clause.bound.map (·.1) = clause'.bound.map (·.1) := by
  cases h with
  | joinOn condition names => exact names
  | filter condition names => exact names
  | having condition names => exact names
  | insertValues names => exact names
  | updateSet names => exact names
  | _ => rfl

theorem inputs_eq (h : Alike clause clause') : clause.inputs.map (·.1) = clause'.inputs.map (·.1) := by
  cases h with
  | withParameters names => exact names
  | @withFieldsOf payload payload' names =>
    have fields : ∀ payload : Payload, (Clause.withFieldsOf payload).inputs.map (·.1) = payload.fields?.getD [] := by
      intro payload
      simp only [inputs, Payload.fields?]
      cases payload.toJson.bind Parameters.ofJson <;> rfl
    rw [fields, fields, names]
  | _ => rfl

theorem outputs_eq (h : Alike clause clause') : clause.outputs = clause'.outputs := by
  cases h <;> rfl

end Alike

end Clause

theorem flatMap_eq_of_forall₂ {β γ : Type} {R : β → β → Prop} {f : β → List γ} {xs ys : List β}
    (h : List.Forall₂ R xs ys) (same : ∀ {x y}, R x y → f x = f y) : xs.flatMap f = ys.flatMap f := by
  induction h with
  | nil => rfl
  | cons first _ ih => rw [List.flatMap_cons, List.flatMap_cons, same first, ih]

theorem Stage.after?_of_alike (alike : List.Forall₂ Clause.Alike clauses clauses') (stage : Stage) :
    stage.after? clauses = stage.after? clauses' := by
  induction alike generalizing stage with
  | nil => rfl
  | cons first _ ih =>
    unfold after? at ih ⊢
    rw [List.foldlM_cons, List.foldlM_cons, first.next?_eq stage]
    cases stage.next? _ with
    | none => rfl
    | some next => exact ih next

theorem Clause.foldl_rewrite_of_alike (alike : List.Forall₂ Clause.Alike clauses clauses') (text : String) :
    clauses.foldl rewrite text = clauses'.foldl rewrite text := by
  induction alike generalizing text with
  | nil => rfl
  | cons first _ ih =>
    rw [List.foldl_cons, List.foldl_cons, first.rewrite_eq text]
    exact ih _

/-- What a call says apart from the values of its inputs. -/
def ProcedureCall.wording (call : ProcedureCall) : String × List String × List OutputParameter :=
  (call.name, call.parameters.names, call.outputs)

/-- Two sessions hold the same statement but for the values. -/
structure Session.SameWording (s s' : Session) : Prop where
  query?_eq : s'.query? = s.query?
  names_eq : s'.parameters.names = s.parameters.names
  wording_eq : s'.procedure?.map ProcedureCall.wording = s.procedure?.map ProcedureCall.wording

theorem Session.SameStatement.sameWording (h : s.SameStatement s') : s.SameWording s' :=
  ⟨h.query?_eq, congrArg Parameters.names h.parameters_eq, congrArg _ h.procedure?_eq⟩

namespace Session

theorem SameWording.symm (h : s.SameWording s') : s'.SameWording s :=
  ⟨h.query?_eq.symm, h.names_eq.symm, h.wording_eq.symm⟩

theorem SameWording.trans {s'' : Session} (h : s.SameWording s') (h' : s'.SameWording s'') : s.SameWording s'' :=
  ⟨h'.query?_eq.trans h.query?_eq, h'.names_eq.trans h.names_eq, h'.wording_eq.trans h.wording_eq⟩

end Session

namespace Statement

section Written

variable (alike : List.Forall₂ Clause.Alike clauses clauses')
  (written : (start s opening).addAll? clauses = some (.ok t, left))
  (written' : (start s' opening).addAll? clauses' = some (.ok t', left'))

include alike written written'

theorem stage_of_alike : t'.stage = t.stage := by
  have before := after?_addAll? written
  have after := after?_addAll? written'
  rw [← Stage.after?_of_alike alike] at after
  exact Option.some.inj (after.symm.trans before)

theorem query?_of_alike : t'.session.query? = t.session.query? := by
  have stage := stage_of_alike alike written written'
  cases mode : t.stage.isProcedure with
  | true =>
    obtain ⟨_, _, _, _, _, query, _⟩ := (stands_written written).call mode
    obtain ⟨_, _, _, _, _, query', _⟩ := (stands_written written').call (stage ▸ mode)
    exact query'.trans query.symm
  | false =>
    have opened : opening.stage.isProcedure = false := (isProcedure_addAll? written).symm.trans mode
    obtain ⟨text, present⟩ := Option.isSome_iff_exists.mp (opening.isSome_query?_perform opened s)
    have present' := (opening.sameStatement_perform s s').query?_eq.trans present
    rw [query?_addAll? present written, query?_addAll? present' written',
      Clause.foldl_rewrite_of_alike alike]

theorem names_of_alike : t'.session.parameters.names = t.session.parameters.names := by
  rw [(collects_written written).names_eq, (collects_written written').names_eq, List.map_flatMap,
    List.map_flatMap, flatMap_eq_of_forall₂ alike fun same => same.bound_eq]

theorem wording_of_alike :
    t'.session.procedure?.map ProcedureCall.wording = t.session.procedure?.map ProcedureCall.wording := by
  have stage := stage_of_alike alike written written'
  cases mode : t.stage.isProcedure with
  | true =>
    obtain ⟨name, _, rfl, _⟩ := (stands_written written).call mode
    obtain ⟨call, held, holds⟩ := calls_written written
    obtain ⟨call', held', holds'⟩ := calls_written written'
    have names : call'.parameters.names = call.parameters.names := by
      rw [holds.names_eq, holds'.names_eq, List.map_flatMap, List.map_flatMap,
        flatMap_eq_of_forall₂ alike fun same => same.inputs_eq]
    have outputs : call'.outputs = call.outputs := by
      rw [holds.outputs_eq, holds'.outputs_eq, flatMap_eq_of_forall₂ alike fun same => same.outputs_eq]
    rw [held, held', Option.map_some, Option.map_some, ProcedureCall.wording, ProcedureCall.wording,
      holds.name_eq, holds'.name_eq, names, outputs]
  | false =>
    obtain ⟨_, _, _, _, unheld⟩ := (stands_written written).text mode
    obtain ⟨_, _, _, _, unheld'⟩ := (stands_written written').text (stage ▸ mode)
    rw [unheld, unheld']

/-- Chains that differ in values alone come to the same statement but for the values, where they come to
one at all. -/
theorem sameWording_written : t'.stage = t.stage ∧ t.session.SameWording t'.session where
  left := stage_of_alike alike written written'
  right :=
    { query?_eq := query?_of_alike alike written written'
      names_eq := names_of_alike alike written written'
      wording_eq := wording_of_alike alike written written' }

end Written

/-- Clauses go in, or one of them fails, where the stages admit them all. -/
theorem isSome_addAll? (after : t.stage.after? clauses = some last) :
    (t.addAll? clauses).isSome = true := by
  induction clauses generalizing t with
  | nil => rfl
  | cons clause rest ih =>
    obtain ⟨next, step, later⟩ := Stage.after?_cons after
    unfold addAll? add?
    rw [step]
    cases clause.perform t.session with
    | mk answer session =>
      cases answer with
      | error failure => rfl
      | ok _ => exact ih later

end Statement

end TypedSql
