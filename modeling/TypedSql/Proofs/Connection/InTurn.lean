import TypedSql.Proofs.Connection.Calls

namespace TypedSql

variable {σ : Type} {layer layer' : DataLayer σ} {target : String} {handle : Handle} {call : Call} {steps : List Call}
  {state state' state'' : σ} {events : List Event} {answer : Except Failure call.Answer} {cleans : Call → Bool}

namespace DataLayer

/-- What comes of a call at the end of some steps: the failure of the first step that fails, else what the
call itself answers. -/
def outcome (layer : DataLayer σ) (handle : Handle) (call : Call) : List Call → σ → Except Failure call.Answer
  | [], state => (layer.answer handle call state).1
  | step :: rest, state =>
    match layer.answer handle step state with
    | (.ok _, state') => outcome layer handle call rest state'
    | (.error failure, _) => .error failure

/-- What is recorded of calls that are made in turn up to the first that fails. -/
def inTurn (layer : DataLayer σ) (handle : Handle) : List Call → σ → List Event
  | [], _ => []
  | call :: rest, state =>
    match layer.answer handle call state with
    | (.ok _, state') => ⟨handle, call, true⟩ :: inTurn layer handle rest state'
    | (.error _, _) => [⟨handle, call, false⟩]

/-- The step that opens a connection, where it is not open. -/
def opening (layer : DataLayer σ) (handle : Handle) (state : σ) : List Call :=
  if layer.isOpen handle state then [] else [.openUp]

/-- The steps to a call on a connection of its own. -/
def leadUp (layer : DataLayer σ) (target : String) (handle : Handle) (state : σ) : List Call :=
  .connect target :: layer.opening handle (layer.answer handle (.connect target) state).2

/-- Two data layers that differ at most in what comes of calls that clean up. -/
structure SameBut (layer : DataLayer σ) (cleans : Call → Bool) (layer' : DataLayer σ) : Prop where
  isOpen_eq : layer'.isOpen = layer.isOpen
  answer_eq : ∀ handle call state, cleans call = false →
    layer'.answer handle call state = layer.answer handle call state

theorem outcome_cons_of_ok {step : Call} {granted : step.Answer}
    (h : layer.answer handle step state = (.ok granted, state')) :
    layer.outcome handle call (step :: steps) state = layer.outcome handle call steps state' := by
  rw [outcome, h]

theorem outcome_cons_of_error {step : Call} {failure : Failure}
    (h : layer.answer handle step state = (.error failure, state')) :
    layer.outcome handle call (step :: steps) state = .error failure := by
  rw [outcome, h]

theorem inTurn_cons_of_ok {granted : call.Answer} (h : layer.answer handle call state = (.ok granted, state')) :
    layer.inTurn handle (call :: steps) state = ⟨handle, call, true⟩ :: layer.inTurn handle steps state' := by
  rw [inTurn, h]

theorem inTurn_cons_of_error {failure : Failure} (h : layer.answer handle call state = (.error failure, state')) :
    layer.inTurn handle (call :: steps) state = [⟨handle, call, false⟩] := by
  rw [inTurn, h]

theorem inTurn_singleton (layer : DataLayer σ) (handle : Handle) (call : Call) (state : σ) :
    layer.inTurn handle [call] state = [⟨handle, call, (layer.answer handle call state).1.isOk⟩] := by
  cases made : layer.answer handle call state with
  | mk answer state' =>
    cases answer with
    | ok granted => rw [inTurn_cons_of_ok made]; rfl
    | error failure => rw [inTurn_cons_of_error made]; rfl

/-- Where the call at the end answers, every step to it was made and succeeded. -/
theorem inTurn_of_outcome_ok {granted : call.Answer} (ok : layer.outcome handle call steps state = .ok granted) :
    layer.inTurn handle (steps ++ [call]) state = (steps ++ [call]).map (⟨handle, ·, true⟩) := by
  induction steps generalizing state with
  | nil =>
    rw [List.nil_append, inTurn_singleton, show (layer.answer handle call state).1 = _ from ok]
    rfl
  | cons step rest ih =>
    cases made : layer.answer handle step state with
    | mk answer state' =>
      cases answer with
      | error failure =>
        rw [outcome_cons_of_error made] at ok
        cases ok
      | ok answered =>
        rw [outcome_cons_of_ok made] at ok
        rw [List.cons_append, inTurn_cons_of_ok made, ih ok]
        rfl

namespace SameBut

theorem outcome_eq (same : layer.SameBut cleans layer') (apart : ∀ step ∈ steps, cleans step = false)
    (asks : cleans call = false) (handle : Handle) (state : σ) :
    layer'.outcome handle call steps state = layer.outcome handle call steps state := by
  induction steps generalizing state with
  | nil => rw [outcome, outcome, same.answer_eq handle call state asks]
  | cons step rest ih =>
    have later := ih fun other mem => apart other (List.mem_cons_of_mem _ mem)
    rw [outcome, outcome, same.answer_eq handle step state (apart step List.mem_cons_self)]
    simp only [later]

theorem leadUp_eq (same : layer.SameBut cleans layer') (asks : cleans (.connect target) = false) (handle : Handle)
    (state : σ) : layer'.leadUp target handle state = layer.leadUp target handle state := by
  unfold leadUp opening
  rw [same.answer_eq handle _ state asks, same.isOpen_eq]

end SameBut

end DataLayer

theorem Attempt.outcome_eq (h : Attempt layer handle call state events answer state') :
    layer.outcome handle call (layer.opening handle state) state = answer ∧
      layer.inTurn handle (layer.opening handle state ++ [call]) state = events := by
  have alone : ∀ {state answer state'}, layer.answer handle call state = (answer, state') →
      layer.outcome handle call [] state = answer ∧
        layer.inTurn handle [call] state = [⟨handle, call, answer.isOk⟩] := by
    intro state answer state' made
    rw [layer.inTurn_singleton, DataLayer.outcome, made]
    exact ⟨rfl, rfl⟩
  unfold DataLayer.opening
  cases h with
  | unopened found refused =>
    rw [if_neg (by simp [found]), List.singleton_append]
    exact ⟨DataLayer.outcome_cons_of_error refused, DataLayer.inTurn_cons_of_error refused⟩
  | opened found granted made =>
    obtain ⟨answered, recorded⟩ := alone made
    rw [if_neg (by simp [found]), List.singleton_append, DataLayer.outcome_cons_of_ok granted,
      DataLayer.inTurn_cons_of_ok granted, answered, recorded]
    exact ⟨rfl, rfl⟩
  | found found made =>
    rw [if_pos found]
    exact alone made

/-- On a connection of its own a call comes at the end of its lead-up. -/
theorem Attempt.outcome_leadUp (asked : layer.answer handle (.connect target) state = (.ok (), state'))
    (h : Attempt layer handle call state' events answer state'') :
    layer.outcome handle call (layer.leadUp target handle state) state = answer ∧
      layer.inTurn handle (layer.leadUp target handle state ++ [call]) state =
        ⟨handle, .connect target, true⟩ :: events := by
  obtain ⟨answered, recorded⟩ := h.outcome_eq
  unfold DataLayer.leadUp
  rw [asked, List.cons_append, DataLayer.outcome_cons_of_ok asked, DataLayer.inTurn_cons_of_ok asked, answered,
    recorded]
  exact ⟨rfl, rfl⟩

theorem DataLayer.outcome_leadUp_of_error (call : Call) {failure : Failure}
    (asked : layer.answer handle (.connect target) state = (.error failure, state')) :
    layer.outcome handle call (layer.leadUp target handle state) state = .error failure ∧
      layer.inTurn handle (layer.leadUp target handle state ++ [call]) state = [⟨handle, .connect target, false⟩] :=
  ⟨outcome_cons_of_error asked, inTurn_cons_of_error asked⟩

end TypedSql
