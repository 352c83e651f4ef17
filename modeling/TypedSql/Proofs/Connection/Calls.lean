import TypedSql.Proofs.Connection.Life

namespace TypedSql

variable {σ : Type}

def World.after (w : World σ) (state : σ) (handles : Nat) (events : List Event) : World σ :=
  { w with layer := state, handles := handles, trace := w.trace ++ events }

@[simp] theorem World.after_layer (w : World σ) (state : σ) (handles : Nat) (events : List Event) :
    (w.after state handles events).layer = state := rfl

@[simp] theorem World.after_handles (w : World σ) (state : σ) (handles : Nat) (events : List Event) :
    (w.after state handles events).handles = handles := rfl

@[simp] theorem World.after_timeout? (w : World σ) (state : σ) (handles : Nat) (events : List Event) :
    (w.after state handles events).timeout? = w.timeout? := rfl

@[simp] theorem World.after_trace (w : World σ) (state : σ) (handles : Nat) (events : List Event) :
    (w.after state handles events).trace = w.trace ++ events := rfl

@[simp] theorem World.after_after (w : World σ) (state state' : σ) (handles handles' : Nat)
    (events events' : List Event) :
    (w.after state handles events).after state' handles' events' =
      w.after state' handles' (events ++ events') := by
  simp only [World.after, List.append_assoc]

theorem Action.bind_apply {α β : Type} (x : Action σ α) (f : α → Action σ β) (w : World σ) :
    (x >>= f) w = f (x w).1 (x w).2 := rfl

theorem Action.pure_apply {α : Type} (a : α) (w : World σ) : (pure a : Action σ α) w = (a, w) := rfl

theorem Action.get_apply (w : World σ) : (get : Action σ (World σ)) w = (w, w) := rfl

theorem Action.modify_apply (f : World σ → World σ) (w : World σ) :
    (modify f : Action σ Unit) w = ((), f w) := rfl

/-- A call on a connection of its own, `handle`, which is closed whatever comes of the call. -/
inductive Alone (layer : DataLayer σ) (target : String) (call : Call) (handle : Handle) (state : σ) :
    List Event → Except Failure call.Answer → σ → Prop where
  | refused {failure : Failure} {state' : σ}
      (asked : layer.answer handle (.connect target) state = (.error failure, state')) :
      Alone layer target call handle state [⟨handle, .connect target, false⟩] (.error failure) state'
  | connected {state' state'' state''' : σ} {events : List Event} {answer : Except Failure call.Answer}
      {closed : Except Failure Unit}
      (asked : layer.answer handle (.connect target) state = (.ok (), state'))
      (attempt : Attempt layer handle call state' events answer state'')
      (released : layer.answer handle .close state'' = (closed, state''')) :
      Alone layer target call handle state
        (⟨handle, .connect target, true⟩ :: events ++ [⟨handle, .close, closed.isOk⟩]) answer state'''

theorem Alone.life {layer : DataLayer σ} {target : String} {call : Call} {handle : Handle}
    {state state' : σ} {events : List Event} {answer : Except Failure call.Answer}
    (h : Alone layer target call handle state events answer state') (kind : call.kind = .command) :
    Life layer target handle events := by
  cases h with
  | refused asked => exact .refused
  | connected asked attempt released => exact .alone _ kind attempt

namespace DataLayer

variable (layer : DataLayer σ) (target : String) (handle : Handle) (call : Call) (w : World σ)

theorem send_apply {answer : Except Failure call.Answer} {state : σ}
    (h : layer.answer handle call w.layer = (answer, state)) :
    layer.send handle call w = (answer, w.after state w.handles [⟨handle, call, answer.isOk⟩]) := by
  unfold send
  rw [h]
  rfl

theorem release_apply {answer : Except Failure Unit} {state : σ}
    (h : layer.answer handle .close w.layer = (answer, state)) :
    layer.release handle w = ((), w.after state w.handles [⟨handle, .close, answer.isOk⟩]) := by
  unfold release
  rw [Action.bind_apply, layer.send_apply handle .close w h]
  rfl

theorem send_after {state state' : σ} {handles : Nat} {events : List Event}
    {answer : Except Failure call.Answer} (h : layer.answer handle call state = (answer, state')) :
    layer.send handle call (w.after state handles events) =
      (answer, w.after state' handles (events ++ [⟨handle, call, answer.isOk⟩])) := by
  rw [layer.send_apply handle call (w.after state handles events) h, World.after_after, World.after_handles]

theorem release_after {state state' : σ} {handles : Nat} {events : List Event}
    {answer : Except Failure Unit} (h : layer.answer handle .close state = (answer, state')) :
    layer.release handle (w.after state handles events) =
      ((), w.after state' handles (events ++ [⟨handle, .close, answer.isOk⟩])) := by
  rw [layer.release_apply handle (w.after state handles events) h, World.after_after, World.after_handles]

theorem connect_apply {answer : Except Failure Unit} {state : σ}
    (h : layer.answer (w.handles + 1) (.connect target) w.layer = (answer, state)) :
    layer.connect target w =
      (answer.map fun _ => w.handles + 1,
        w.after state (w.handles + 1) [⟨w.handles + 1, .connect target, answer.isOk⟩]) := by
  have sent := layer.send_apply (w.handles + 1) (.connect target) { w with handles := w.handles + 1 } h
  rw [connect, Action.bind_apply, Action.modify_apply, Action.bind_apply, Action.get_apply,
    Action.bind_apply, sent]
  cases answer <;> rfl

theorem ensureOpen_apply :
    layer.ensureOpen handle w =
      if layer.isOpen handle w.layer = true then (.ok (), w) else layer.send handle .openUp w := by
  have whole : layer.ensureOpen handle w =
      (if layer.isOpen handle w.layer = true then pure (.ok ()) else layer.send handle .openUp :
        Action σ (Except Failure Unit)) w := rfl
  rw [whole]
  split <;> rfl

theorem whenOpen_send : ∃ events answer state,
    Attempt layer handle call w.layer events answer state ∧
      layer.whenOpen handle (layer.send handle call) w = (answer, w.after state w.handles events) := by
  cases found : layer.isOpen handle w.layer with
  | true =>
    have ready : layer.ensureOpen handle w = (.ok (), w) := by
      rw [ensureOpen_apply, if_pos found]
    refine ⟨_, _, _, .found found rfl, ?_⟩
    simp only [whenOpen, Action.bind_apply, ready]
    exact layer.send_apply handle call w rfl
  | false =>
    have ready : layer.ensureOpen handle w = layer.send handle .openUp w := by
      rw [ensureOpen_apply, found]
      rfl
    cases opening : layer.answer handle .openUp w.layer with
    | mk answer state =>
      have sent := layer.send_apply handle .openUp w opening
      cases answer with
      | error failure =>
        refine ⟨_, _, _, .unopened found opening, ?_⟩
        simp only [whenOpen, Action.bind_apply, ready, sent]
        rfl
      | ok _ =>
        refine ⟨_, _, _, .opened found opening rfl, ?_⟩
        simp only [whenOpen, Action.bind_apply, ready, sent]
        exact layer.send_after handle call w rfl

theorem sendAlone_spec : ∃ events answer state,
    Alone layer target call (w.handles + 1) w.layer events answer state ∧
      layer.sendAlone target call w = (answer, w.after state (w.handles + 1) events) := by
  cases asking : layer.answer (w.handles + 1) (.connect target) w.layer with
  | mk answer state =>
    cases answer with
    | error failure =>
      refine ⟨_, _, _, .refused asking, ?_⟩
      simp only [sendAlone, Action.bind_apply, layer.connect_apply target w asking]
      rfl
    | ok _ =>
      have connected := layer.connect_apply target w asking
      obtain ⟨events, answer, state', attempt, run⟩ := layer.whenOpen_send (w.handles + 1) call
        (w.after state (w.handles + 1) [⟨w.handles + 1, .connect target, true⟩])
      refine ⟨_, _, _, .connected asking attempt rfl, ?_⟩
      simp only [sendAlone, Action.bind_apply, connected, Except.map, Except.isOk, Except.toBool, run,
        World.after_after, World.after_handles, List.singleton_append]
      rw [layer.release_after (w.handles + 1) w rfl]
      rfl

end DataLayer

end TypedSql
