import TypedSql.Proofs.Session.Account
import TypedSql.Proofs.Session.Release
import TypedSql.Recorder

namespace TypedSql

variable {σ α : Type} {layer : DataLayer σ} {target : String} {handle : Handle} {events : List Event}

/-- Where the calls of a session go as it stands. -/
structure Session.Routed (layer : DataLayer σ) (s : Session) (w : World σ) : Prop where
  active_iff : s.inTransaction = true ↔ ∃ handle, s.connection? = some handle
  /-- Inside the transaction a command goes to the connection of the transaction, and nothing else does. -/
  inside : ∀ {α : Type} (use : Use α) call handle, s.connection? = some handle →
    use.call? s w.timeout? = some call →
      ∃ answer state, layer.answer handle call w.layer = (answer, state) ∧
        (use.perform layer s w).2 = w.after state w.handles [⟨handle, call, answer.isOk⟩]
  /-- Outside, it goes to a new connection of its own. -/
  alone : ∀ {α : Type} (use : Use α) call, s.inTransaction = false → use.call? s w.timeout? = some call →
    ∃ events answer state,
      Alone layer s.target call (w.handles + 1) w.layer events answer state ∧
        (use.perform layer s w).2 = w.after state (w.handles + 1) events
  quiet : ∀ {α : Type} (use : Use α), use.isPlain = true → use.call? s w.timeout? = none →
    (use.perform layer s w).2 = w
  begin_active : s.inTransaction = true → s.begin layer w = ((.ok (), s), w)
  commit_idle : s.inTransaction = false → (s.commit layer w).2 = w
  rollback_idle : s.inTransaction = false → (s.rollback layer w).2 = w

theorem Session.Settled.routed {s : Session} (settled : s.Settled) (layer : DataLayer σ) (w : World σ) :
    s.Routed layer w where
  active_iff := settled.active_iff
  inside := by
    intro α use call handle held comes
    refine ⟨_, _, rfl, ?_⟩
    rw [(Use.perform_of_isPlain (Use.isPlain_of_call? comes) layer s w).2, comes]
    simp only [dispatch_inside held (settled.active_of_some held)]
    rw [layer.send_apply handle call w rfl]
  alone := by
    intro α use call inactive comes
    obtain ⟨events, answer, state, alone, run⟩ := layer.sendAlone_spec s.target call w
    refine ⟨events, answer, state, alone, ?_⟩
    rw [(Use.perform_of_isPlain (Use.isPlain_of_call? comes) layer s w).2, comes]
    simp only [dispatch_idle (settled.idle_of_inactive inactive), run]
  quiet := by
    intro α use plain comes
    rw [(Use.perform_of_isPlain plain layer s w).2, comes]
  begin_active active := begin_of_active active layer w
  commit_idle inactive := by rw [commit_of_idle (settled.idle_of_inactive inactive)]
  rollback_idle inactive := by rw [rollback_of_idle (settled.idle_of_inactive inactive)]

def CallKind.isLast : CallKind → Bool
  | .commit => true
  | .rollback => true
  | .close => true
  | _ => false

/-- No commit follows a rollback, and no rollback a commit that succeeded. -/
def InOrder (events : List Event) : Prop :=
  events.Pairwise fun e e' =>
    (e.call.kind = .rollback → e'.call.kind ≠ .commit) ∧
      (e.call.kind = .commit → e.succeeded = true → e'.call.kind ≠ .rollback)

/-- A transaction on a connection has come to its end in one of the three ways. -/
def Concluded (handle : Handle) (events : List Event) : Prop :=
  ∃ before conclusion, events = before ++ conclusion ∧ Conclusion handle conclusion ∧
    ∀ e ∈ before, e.call.kind.isLast = false

theorem Attempt.isLast_eq {call : Call} {state state' : σ} {answer : Except Failure call.Answer}
    (h : Attempt layer handle call state events answer state') (kind : call.kind.isLast = false)
    (target : String) :
    ∀ e ∈ ⟨handle, .connect target, true⟩ :: events, e.call.kind.isLast = false := by
  intro e he
  rcases List.mem_cons.mp he with rfl | he
  · rfl
  · rcases h.kind e he with openUp | ⟨same, _⟩
    · rw [openUp]
      rfl
    · rw [same]
      exact kind

theorem Underway.isLast_eq (h : Underway layer target handle events) :
    ∀ e ∈ events, e.call.kind.isLast = false := by
  induction h with
  | begun attempt => exact attempt.isLast_eq rfl target
  | command ok before kind ih =>
    intro e he
    rcases List.mem_append.mp he with he | he
    · exact ih e he
    · rw [List.mem_singleton.mp he, kind]
      rfl

theorem Underway.count_begin (h : Underway layer target handle events) :
    events.countP (fun e => decide (e.call.kind = .begin) && e.succeeded) = 1 := by
  induction h with
  | begun attempt => cases attempt <;> simp [Call.kind, Except.isOk, Except.toBool]
  | command ok before kind ih => simp [List.countP_append, ih, kind]

theorem InOrder.append {before after : List Event} (h : ∀ e ∈ before, e.call.kind.isLast = false)
    (h' : InOrder after) : InOrder (before ++ after) := by
  have free : ∀ e ∈ before, ∀ e' : Event,
      (e.call.kind = .rollback → e'.call.kind ≠ .commit) ∧
        (e.call.kind = .commit → e.succeeded = true → e'.call.kind ≠ .rollback) := by
    intro e he e'
    have last := h e he
    refine ⟨fun rollback => ?_, fun commit => ?_⟩
    · simp [rollback, CallKind.isLast] at last
    · simp [commit, CallKind.isLast] at last
  apply List.pairwise_append.mpr
  refine ⟨?_, h', fun e he e' _ => free e he e'⟩
  apply List.pairwise_of_forall_mem_list
  exact fun e he e' _ => free e he e'

theorem Conclusion.inOrder (h : Conclusion handle events) : InOrder events := by
  cases h <;> simp [InOrder, Call.kind]

theorem Life.inOrder (h : Life layer target handle events) : InOrder events := by
  cases h with
  | refused => exact List.pairwise_singleton _ _
  | alone closed kind attempt =>
    exact .append (attempt.isLast_eq (by rw [kind]; rfl) target) (List.pairwise_singleton _ _)
  | unbegun closed attempt =>
    exact .append (attempt.isLast_eq rfl target) (List.pairwise_singleton _ _)
  | concluded before after => exact .append before.isLast_eq after.inOrder

theorem Attempt.not_begun {call : Call} {state state' : σ} {answer : Except Failure call.Answer}
    (h : Attempt layer handle call state events answer state')
    (failed : call = .begin → answer.isOk = false) (target : String) (closed : Bool) :
    ⟨handle, .begin, true⟩ ∉
      ⟨handle, .connect target, true⟩ :: events ++ [⟨handle, .close, closed⟩] := by
  intro mem
  rcases List.mem_append.mp mem with mem | mem
  · rcases List.mem_cons.mp mem with same | mem
    · simp at same
    · rcases h.kind _ mem with openUp | ⟨same, ok⟩
      · simp [Call.kind] at openUp
      · rw [failed same.symm] at ok
        simp at ok
  · simp at mem

theorem Life.concluded_of_begin (h : Life layer target handle events)
    (mem : ⟨handle, .begin, true⟩ ∈ events) : Concluded handle events := by
  cases h with
  | refused => simp at mem
  | alone closed kind attempt =>
    refine absurd mem (attempt.not_begun (fun begin => ?_) target closed)
    simp [begin, Call.kind] at kind
  | unbegun closed attempt => exact absurd mem (attempt.not_begun (fun _ => rfl) target closed)
  | concluded before after => exact ⟨_, _, rfl, after, before.isLast_eq⟩

/-- How the transactions of a session are bracketed: the one that is open has begun and has no end yet,
every other one has come to its end. -/
structure Session.Bracketed (held? : Option Handle) (events : List Event) : Prop where
  open_begun : ∀ handle ∈ held?,
    (onHandle handle events).countP (fun e => decide (e.call.kind = .begin) && e.succeeded) = 1
  open_unended : ∀ handle ∈ held?, ∀ e ∈ onHandle handle events,
    e.call.kind ≠ .commit ∧ e.call.kind ≠ .rollback
  ended : ∀ handle, ⟨handle, .begin, true⟩ ∈ events →
    held? = some handle ∨ Concluded handle (onHandle handle events)
  inOrder : ∀ handle, InOrder (onHandle handle events)

theorem Lives.bracketed {first last : Nat} (h : Lives layer target first last events) :
    Session.Bracketed none events where
  open_begun := by simp
  open_unended := by simp
  ended := by
    intro handle mem
    have bounds := h.handle_bounds _ mem
    have life := h.onHandle bounds.1 bounds.2
    exact Or.inr (life.concluded_of_begin (List.mem_filter.mpr ⟨mem, by simp⟩))
  inOrder := by
    intro handle
    by_cases mem : ∃ e ∈ events, e.handle = handle
    · obtain ⟨e, mem, rfl⟩ := mem
      have bounds := h.handle_bounds _ mem
      exact (h.onHandle bounds.1 bounds.2).inOrder
    · rw [onHandle_of_none fun e he same => mem ⟨e, he, same⟩]
      exact List.Pairwise.nil

theorem Account.bracketed {first last : Nat} {held : Option Handle}
    (h : Account layer target first held last events) : Session.Bracketed held events := by
  cases h with
  | idle before => exact before.bracketed
  | @held last events own before underway =>
    have whole := before.bracketed
    -- The connection that is kept has the last handle: its events are those behind the whole lives.
    have apart : ∀ handle, handle ≠ last + 1 → onHandle handle (events ++ own) = onHandle handle events := by
      intro handle other
      have none : onHandle handle own = [] :=
        onHandle_of_none fun e he same => other (same.symm.trans (underway.handle_eq e he))
      rw [onHandle_append, none, List.append_nil]
    have here : onHandle (last + 1) (events ++ own) = own := by
      rw [onHandle_append, onHandle_of_all underway.handle_eq, onHandle_of_none, List.nil_append]
      intro e he same
      have := (before.handle_bounds e he).2
      rw [same] at this
      exact Nat.not_succ_le_self last this
    refine ⟨?_, ?_, ?_, ?_⟩
    · intro handle kept
      rw [← Option.some.inj kept, here]
      exact underway.count_begin
    · intro handle kept
      rw [← Option.some.inj kept, here]
      intro e he
      have last := underway.isLast_eq e he
      refine ⟨fun commit => ?_, fun rollback => ?_⟩
      · simp [commit, CallKind.isLast] at last
      · simp [rollback, CallKind.isLast] at last
    · intro handle mem
      by_cases same : handle = last + 1
      · exact Or.inl (congrArg some same.symm)
      · rw [apart handle same]
        have mem : ⟨handle, .begin, true⟩ ∈ onHandle handle (events ++ own) :=
          List.mem_filter.mpr ⟨mem, by simp⟩
        rw [apart handle same] at mem
        exact Or.inr ((whole.ended handle (List.mem_filter.mp mem).1).resolve_left (by simp))
    · intro handle
      by_cases same : handle = last + 1
      · rw [same, here, ← List.append_nil own]
        exact .append underway.isLast_eq List.Pairwise.nil
      · rw [apart handle same]
        exact whole.inOrder handle

theorem Account.handle_le {first last : Nat} {held : Option Handle}
    (h : Account layer target first held last events) : ∀ e ∈ events, e.handle ≤ last := by
  cases h with
  | idle before => exact fun e he => (before.handle_bounds e he).2
  | held before underway =>
    intro e he
    rcases List.mem_append.mp he with he | he
    · exact Nat.le_succ_of_le (before.handle_bounds e he).2
    · exact Nat.le_of_eq (underway.handle_eq e he)

/-- However a session has been used, it is in a transaction exactly while it keeps a connection, every
command goes to that connection or runs alone on one not used before, and its transactions are
bracketed; once the session has ended every one of them has come to its end. -/
theorem Session.performAll_routes (layer : DataLayer σ) (target : String) (uses : List (Use α))
    (ending : Ending) (w : World σ) :
    let (s, w') := Use.performAll layer (.new target) uses w
    ∃ events, w'.trace = w.trace ++ events ∧ (∀ e ∈ events, e.handle ≤ w'.handles) ∧
      s.Routed layer w' ∧ Bracketed s.connection? events ∧
      ∃ last, (lifetime layer target uses ending w).2.trace = w.trace ++ events ++ last ∧
        Bracketed none (events ++ last) := by
  obtain ⟨events, trace, account, settled, same⟩ := Use.performAll_new layer target uses w
  obtain ⟨last, moved⟩ := rollback_moved settled layer (Use.performAll layer (.new target) uses w).2
  have step := moved.step
  rw [connection?_rollback layer settled, same] at step
  refine ⟨events, trace, account.handle_le, settled.routed layer _, account.bracketed, last, ?_, ?_⟩
  · rw [lifetime_world, moved.trace_eq, trace]
  · exact (account.step step).bracketed

/-- A transaction with one command, committed: the command goes to its connection, the one behind it to a new one. -/
theorem Session.performAll_routes_committed :
    let uses : List (Use Unit) :=
      [.begin, .execute "DELETE FROM Cache" .empty, .commit, .query "SELECT 1" .empty .rows]
    let run := Use.performAll Recorder.layer (.new "db") uses ⟨{}, 0, none, []⟩
    let inside : List Event :=
      [⟨1, .connect "db", true⟩, ⟨1, .openUp, true⟩, ⟨1, .begin, true⟩,
        ⟨1, .execute (.statement "DELETE FROM Cache" .empty none), true⟩, ⟨1, .commit, true⟩, ⟨1, .close, true⟩]
    let alone : List Event :=
      [⟨2, .connect "db", true⟩, ⟨2, .openUp, true⟩, ⟨2, .query (.statement "SELECT 1" .empty none), true⟩,
        ⟨2, .close, true⟩]
    run.2.trace = inside ++ alone ∧ run.1.inTransaction = false ∧ Concluded 1 inside ∧ InOrder inside := by
  intro uses run inside alone
  let held : Session := { Session.new "db" with connection? := some 1, inTransaction := true }
  have begun : (.begin : Use Unit).perform Recorder.layer (.new "db") ⟨{}, 0, none, []⟩ =
      ((.ok none, held), ⟨⟨{}, [1]⟩, 1, none, inside.take 3⟩) := by rfl
  have executed : (.execute "DELETE FROM Cache" .empty : Use Unit).perform Recorder.layer held
      ⟨⟨{}, [1]⟩, 1, none, inside.take 3⟩ =
      ((.ok (some ⟨.count 0, []⟩), held), ⟨⟨{}, [1]⟩, 1, none, inside.take 4⟩) := by rfl
  have committed : (.commit : Use Unit).perform Recorder.layer held ⟨⟨{}, [1]⟩, 1, none, inside.take 4⟩ =
      ((.ok none, .new "db"), ⟨{}, 1, none, inside⟩) := by rfl
  have queried : (.query "SELECT 1" .empty .rows : Use Unit).perform Recorder.layer (.new "db")
      ⟨{}, 1, none, inside⟩ =
      ((.ok (some ⟨.taken (.rows []), []⟩), .new "db"), ⟨{}, 2, none, inside ++ alone⟩) := by rfl
  have ran : run = (.new "db", ⟨{}, 2, none, inside ++ alone⟩) := by
    simp only [run, uses, Use.performAll, bind, StateT.bind, begun, executed, committed, queried]
    rfl
  -- Said of any uses first: the run of the ones at hand is not to be unfolded to read the pair.
  have routes : ∀ (uses : List (Use Unit)) (w w' : World Recorder.State) (s : Session),
      Use.performAll Recorder.layer (.new "db") uses w = (s, w') →
      ∃ events, w'.trace = w.trace ++ events ∧ s.Routed Recorder.layer w' ∧ Bracketed s.connection? events := by
    intro uses w w' s ran
    have whole := performAll_routes Recorder.layer "db" uses .dispose w
    rw [ran] at whole
    obtain ⟨events, trace, _, routed, bracketed, _⟩ := whole
    exact ⟨events, trace, routed, bracketed⟩
  obtain ⟨events, trace, routed, bracketed⟩ := routes _ _ _ _ ran
  obtain rfl : events = inside ++ alone := trace.symm
  have own : onHandle 1 (inside ++ alone) = inside := by rfl
  have mem : ⟨1, .begin, true⟩ ∈ inside ++ alone := by simp [inside]
  rw [ran]
  refine ⟨trace, ?_, ?_, own ▸ bracketed.inOrder 1⟩
  · exact Bool.eq_false_iff.mpr fun active => (routed.active_iff.mp active).elim nofun
  · exact own ▸ (bracketed.ended 1 mem).resolve_left nofun

end TypedSql
