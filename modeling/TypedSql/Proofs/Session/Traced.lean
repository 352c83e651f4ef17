import TypedSql.Proofs.Session.Dispatch

namespace TypedSql

variable {σ α β : Type} {layer : DataLayer σ}

/-- Events as the data layer made them, one answer after the other. -/
inductive Ran (layer : DataLayer σ) : σ → List Event → σ → Prop where
  | nil (state : σ) : Ran layer state [] state
  | call {state state' state'' : σ} {handle : Handle} {call : Call} {answer : Except Failure call.Answer}
      {events : List Event}
      (made : layer.answer handle call state = (answer, state')) (rest : Ran layer state' events state'') :
      Ran layer state (⟨handle, call, answer.isOk⟩ :: events) state''

theorem Ran.append {state state' state'' : σ} {events events' : List Event}
    (h : Ran layer state events state') (h' : Ran layer state' events' state'') :
    Ran layer state (events ++ events') state'' := by
  induction h with
  | nil => exact h'
  | call made _ ih => exact .call made (ih h')

/-- Whatever an action does to the data layer, it does by calls, and it records them all. -/
def Traced (layer : DataLayer σ) (x : Action σ α) : Prop :=
  ∀ w, ∃ events, (x w).2.trace = w.trace ++ events ∧ Ran layer w.layer events (x w).2.layer

namespace Traced

theorem pure (a : α) : Traced layer (Pure.pure a : Action σ α) :=
  fun w => ⟨[], (List.append_nil _).symm, .nil w.layer⟩

theorem get : Traced layer (MonadState.get : Action σ (World σ)) :=
  fun w => ⟨[], (List.append_nil _).symm, .nil w.layer⟩

theorem bind {x : Action σ α} {f : α → Action σ β} (h : Traced layer x) (h' : ∀ a, Traced layer (f a)) :
    Traced layer (x >>= f) := by
  intro w
  obtain ⟨events, trace, ran⟩ := h w
  obtain ⟨events', trace', ran'⟩ := h' (x w).1 (x w).2
  refine ⟨events ++ events', ?_, ran.append ran'⟩
  rw [Action.bind_apply, trace', trace, List.append_assoc]

theorem send (handle : Handle) (call : Call) : Traced layer (layer.send handle call) :=
  fun _ => ⟨_, rfl, .call rfl (.nil _)⟩

theorem release (handle : Handle) : Traced layer (layer.release handle) := bind (send handle .close) fun _ => pure ()

theorem connect (target : String) : Traced layer (layer.connect target) := by
  have counted : Traced layer (modify fun w => { w with handles := w.handles + 1 } : Action σ Unit) :=
    fun _ => ⟨[], (List.append_nil _).symm, .nil _⟩
  refine bind counted fun _ => bind get fun _ => bind (send _ _) fun answer => ?_
  cases answer with
  | ok _ => exact pure _
  | error failure => exact pure _

theorem whenOpen {handle : Handle} {next : Action σ (Except Failure α)} (h : Traced layer next) :
    Traced layer (layer.whenOpen handle next) := by
  have ready : Traced layer (layer.ensureOpen handle) := by
    refine bind get fun w => ?_
    split
    · exact pure _
    · exact send handle .openUp
  refine bind ready fun answer => ?_
  cases answer with
  | ok _ => exact h
  | error failure => exact pure _

theorem sendAlone (target : String) (call : Call) : Traced layer (layer.sendAlone target call) := by
  refine bind (connect target) fun answer => ?_
  cases answer with
  | error failure => exact pure _
  | ok handle => exact bind (whenOpen (send handle call)) fun _ => bind (release handle) fun _ => pure _

theorem dispatch (s : Session) (call : Call) : Traced layer (s.dispatch layer call) := by
  unfold Session.dispatch
  cases s.transaction? with
  | some handle => exact send handle call
  | none => exact sendAlone s.target call

theorem execute (s : Session) (subject : Session.Subject) : Traced layer (s.execute layer subject) := by
  refine bind get fun w => ?_
  cases s.command (s.effectiveTimeout w) subject with
  | error failure => exact pure _
  | ok command => exact bind (dispatch s _) fun _ => pure _

theorem fetch (s : Session) (subject : Session.Subject) (take : Session.Take α) :
    Traced layer (s.fetch layer subject take) := by
  have rows : Traced layer (s.queryRows layer subject) := by
    refine bind get fun w => ?_
    cases s.command (s.effectiveTimeout w) subject with
    | error failure => exact pure _
    | ok command => exact bind (dispatch s _) fun _ => pure _
  refine bind rows fun answer => ?_
  cases answer with
  | error failure => exact pure _
  | ok returned => exact pure _

theorem begin (s : Session) : Traced layer (s.begin layer) := by
  unfold Session.begin
  cases s.inTransaction with
  | true => exact pure _
  | false =>
    have acquired : Traced layer (s.acquire layer) := by
      unfold Session.acquire
      cases s.connection? with
      | some handle => exact pure _
      | none => exact connect s.target
    refine bind acquired fun answer => ?_
    cases answer with
    | error failure => exact pure _
    | ok handle =>
      refine bind (whenOpen (send handle .begin)) fun answer => ?_
      cases answer with
      | ok _ => exact pure _
      | error failure => exact bind (release handle) fun _ => pure _

theorem closed (s : Session) (handle : Handle) (answer : Except Failure Unit) :
    Traced layer (do layer.release handle; return (answer, s.idle) : Action σ _) :=
  bind (release handle) fun _ => pure _

theorem rollback (s : Session) : Traced layer (s.rollback layer) := by
  unfold Session.rollback
  cases s.connection? with
  | none => exact pure _
  | some handle =>
    cases s.inTransaction with
    | true => exact bind (send handle .rollback) (closed s handle)
    | false => exact bind (pure _) (closed s handle)

theorem commit (s : Session) : Traced layer (s.commit layer) := by
  unfold Session.commit
  cases s.connection? with
  | none => exact pure _
  | some handle =>
    cases s.inTransaction with
    | false => exact closed s handle (.ok ())
    | true =>
      refine bind (send handle .commit) fun answer => ?_
      cases answer with
      | ok _ => exact closed s handle _
      | error failure => exact bind (send handle .rollback) fun _ => closed s handle _

theorem finish (t : Statement) (terminal : Statement.Terminal α) : Traced layer (t.finish layer terminal) := by
  cases terminal with
  | query take => exact bind (fetch t.session .written take) fun _ => pure _
  | execute => exact bind (execute t.session .written) fun _ => pure _
  | callQuery take => exact bind (fetch t.session .procedure take) fun _ => pure _
  | callExecute => exact bind (execute t.session .procedure) fun _ => pure _

theorem perform (s : Session) (use : Use α) : Traced layer (use.perform layer s) := by
  cases use with
  | begin => exact bind (begin s) fun _ => pure _
  | commit => exact bind (commit s) fun _ => pure _
  | rollback => exact bind (rollback s) fun _ => pure _
  | setTimeout seconds => exact pure _
  | query text parameters take => exact bind (fetch s _ take) fun _ => pure _
  | execute text parameters => exact bind (execute s _) fun _ => pure _
  | write opening clauses terminal? =>
    simp only [Use.perform]
    split
    · exact pure _
    · exact pure _
    · split
      · exact pure _
      next t _ _ _ finish run =>
        obtain ⟨terminal, _, finished⟩ := Option.bind_eq_some_iff.mp run
        unfold Statement.finish? at finished
        split at finished
        · cases finished
          exact bind (Traced.finish t terminal) fun _ => pure _
        · cases finished

theorem performAll (s : Session) (uses : List (Use α)) : Traced layer (Use.performAll layer s uses) := by
  induction uses generalizing s with
  | nil => exact pure _
  | cons use rest ih => exact bind (perform s use) fun _ => ih _

end Traced

end TypedSql
