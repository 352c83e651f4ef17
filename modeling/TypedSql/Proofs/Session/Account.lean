import TypedSql.Proofs.Session.Bracket
import TypedSql.Proofs.Session.Dispatch

namespace TypedSql

variable {σ α : Type} {layer : DataLayer σ} {target : String} {first last last' : Nat}
  {held held' : Option Handle} {events own : List Event}

/-- What the events of a session amount to: whole lives, and behind them the part so far of the life of
the connection that the session keeps. -/
inductive Account (layer : DataLayer σ) (target : String) (first : Nat) :
    Option Handle → Nat → List Event → Prop where
  | idle {last : Nat} {events : List Event} (before : Lives layer target first last events) :
      Account layer target first none last events
  | held {last : Nat} {events own : List Event} (before : Lives layer target first last events)
      (underway : Underway layer target (last + 1) own) :
      Account layer target first (some (last + 1)) (last + 1) (events ++ own)

/-- What one use of a session adds, by the connection that the session keeps before and afterwards. -/
inductive Account.Step (layer : DataLayer σ) (target : String) :
    Option Handle → Nat → List Event → Option Handle → Nat → Prop where
  | quiet {held : Option Handle} {last : Nat} : Step layer target held last [] held last
  | life {last : Nat} {own : List Event} (whole : Life layer target (last + 1) own) :
      Step layer target none last own none (last + 1)
  | begun {last : Nat} {own : List Event} (underway : Underway layer target (last + 1) own) :
      Step layer target none last own (some (last + 1)) (last + 1)
  | command {last : Nat} {handle : Handle} {call : Call} (ok : Bool) (kind : call.kind = .command) :
      Step layer target (some handle) last [⟨handle, call, ok⟩] (some handle) last
  | concluded {last : Nat} {handle : Handle} {own : List Event} (conclusion : Conclusion handle own) :
      Step layer target (some handle) last own none last

theorem Account.step (h : Account layer target first held last events)
    (step : Account.Step layer target held last own held' last') :
    Account layer target first held' last' (events ++ own) := by
  cases step with
  | quiet => rwa [List.append_nil]
  | life whole =>
    cases h with
    | idle before => exact .idle (.next before whole)
  | begun underway =>
    cases h with
    | idle before => exact .held before underway
  | command ok kind =>
    cases h with
    | held before underway =>
      rw [List.append_assoc]
      exact .held before (.command ok underway kind)
  | concluded conclusion =>
    cases h with
    | held before underway =>
      rw [List.append_assoc]
      exact .idle (.next before (.concluded underway conclusion))

theorem Account.kept_eq {handle : Handle} (h : Account layer target first (some handle) last events) :
    handle = last := by
  cases h
  rfl

namespace Session

variable {s : Session} {w : World σ}

def Settled (s : Session) : Prop := s.inTransaction = s.connection?.isSome

theorem settled_new (target : String) : (new target).Settled := rfl

theorem settled_idle (s : Session) : s.idle.Settled := rfl

theorem SameConnection.settled {s s' : Session} (h : SameConnection s s') (settled : s.Settled) :
    s'.Settled := by
  unfold Settled
  rw [h.inTransaction_eq, h.connection?_eq]
  exact settled

theorem Settled.active_of_some {handle : Handle} (settled : s.Settled) (held : s.connection? = some handle) :
    s.inTransaction = true := by
  rw [settled, held]
  rfl

theorem Settled.inactive_of_none (settled : s.Settled) (idle : s.connection? = none) :
    s.inTransaction = false := by
  rw [settled, idle]
  rfl

theorem Settled.active_iff (settled : s.Settled) :
    s.inTransaction = true ↔ ∃ handle, s.connection? = some handle := by
  rw [settled]
  exact Option.isSome_iff_exists

theorem Settled.idle_of_inactive (settled : s.Settled) (inactive : s.inTransaction = false) :
    s.connection? = none := by
  rw [settled] at inactive
  exact Option.not_isSome_iff_eq_none.mp (by simp [inactive])

/-- One use of a session, seen from outside: what it records, and how it leaves the session standing. -/
structure Moved (layer : DataLayer σ) (s s' : Session) (w w' : World σ) (own : List Event) : Prop where
  trace_eq : w'.trace = w.trace ++ own
  step : Account.Step layer s.target s.connection? w.handles own s'.connection? w'.handles
  settled : s'.Settled
  target_eq : s'.target = s.target
  timeout?_eq : w'.timeout? = w.timeout?

theorem Moved.quiet {s' : Session} (settled : s'.Settled) (target_eq : s'.target = s.target)
    (kept : s'.connection? = s.connection?) : Moved layer s s' w w [] where
  trace_eq := (List.append_nil _).symm
  step := by
    rw [kept]
    exact .quiet
  settled := settled
  target_eq := target_eq
  timeout?_eq := rfl

theorem Moved.concluded {handle : Handle} (held : s.connection? = some handle)
    (conclusion : Conclusion handle own) (state : σ) :
    Moved layer s s.idle w (w.after state w.handles own) own where
  trace_eq := rfl
  step := by
    rw [held]
    exact .concluded conclusion
  settled := s.settled_idle
  target_eq := rfl
  timeout?_eq := rfl

/-- A transaction is asked for: in one nothing is done, otherwise it starts on a connection of its own or
the session stays as it is. -/
inductive Started (layer : DataLayer σ) (s : Session) (w : World σ) :
    (Except Failure Unit × Session) × World σ → Prop where
  | already (active : s.inTransaction = true) : Started layer s w ((.ok (), s), w)
  | failed {own : List Event} {failure : Failure} {state : σ} (unheld : s.connection? = none)
      (beginning : Beginning layer s.target (w.handles + 1) w.layer own (.error failure) state) :
      Started layer s w ((.error failure, s), w.after state (w.handles + 1) own)
  | started {own : List Event} {state : σ} (unheld : s.connection? = none)
      (beginning : Beginning layer s.target (w.handles + 1) w.layer own (.ok ()) state) :
      Started layer s w
        ((.ok (), { s with connection? := some (w.handles + 1), inTransaction := true }),
          w.after state (w.handles + 1) own)

theorem Settled.started_begin (settled : s.Settled) (layer : DataLayer σ) (w : World σ) :
    Started layer s w (s.begin layer w) := by
  cases kept : s.connection? with
  | some handle =>
    have active := settled.active_of_some kept
    rw [begin_of_active active]
    exact .already active
  | none =>
    rcases begin_of_idle kept (settled.inactive_of_none kept) layer w with
      ⟨events, failure, state, beginning, run⟩ | ⟨events, state, beginning, run⟩
    · rw [run]
      exact .failed kept beginning
    · rw [run]
      exact .started kept beginning

theorem Started.moved {r : (Except Failure Unit × Session) × World σ} (h : Started layer s w r)
    (settled : s.Settled) : ∃ own, Moved layer s r.1.2 w r.2 own := by
  cases h with
  | already active => exact ⟨[], .quiet settled rfl rfl⟩
  | failed unheld beginning =>
    refine ⟨_, rfl, ?_, settled, rfl, rfl⟩
    rw [unheld]
    exact .life beginning.life
  | started unheld beginning =>
    refine ⟨_, rfl, ?_, rfl, rfl, rfl⟩
    rw [unheld]
    exact .begun beginning.underway

/-- A transaction is brought to its end: with a connection it is concluded there, without one nothing is
done, and the session is idle either way. -/
inductive Ended (s : Session) (call : Call) (w : World σ) : (Except Failure Unit × Session) × World σ → Prop where
  | idle (unheld : s.connection? = none) : Ended s call w ((.ok (), s.idle), w)
  | concluded {handle : Handle} {own : List Event} {answer : Except Failure Unit}
      (held : s.connection? = some handle) (concluding : Concluding handle call own answer) (state : σ) :
      Ended s call w ((answer, s.idle), w.after state w.handles own)

theorem Settled.ended_commit (settled : s.Settled) (layer : DataLayer σ) (w : World σ) :
    s.Ended .commit w (s.commit layer w) := by
  cases kept : s.connection? with
  | none =>
    rw [commit_of_idle kept]
    exact .idle kept
  | some handle =>
    obtain ⟨answer, events, state, concluding, run⟩ :=
      commit_of_active kept (settled.active_of_some kept) layer w
    rw [run]
    exact .concluded kept concluding state

theorem Settled.ended_rollback (settled : s.Settled) (layer : DataLayer σ) (w : World σ) :
    s.Ended .rollback w (s.rollback layer w) := by
  cases kept : s.connection? with
  | none =>
    rw [rollback_of_idle kept]
    exact .idle kept
  | some handle =>
    obtain ⟨answer, events, state, concluding, run⟩ :=
      rollback_of_active kept (settled.active_of_some kept) layer w
    rw [run]
    exact .concluded kept concluding state

theorem Ended.moved {call : Call} {r : (Except Failure Unit × Session) × World σ} (h : s.Ended call w r) :
    ∃ own, Moved layer s r.1.2 w r.2 own := by
  cases h with
  | idle unheld => exact ⟨[], .quiet s.settled_idle rfl unheld.symm⟩
  | concluded held concluding state => exact ⟨_, .concluded held concluding.conclusion state⟩

theorem rollback_moved (settled : s.Settled) (layer : DataLayer σ) (w : World σ) :
    ∃ own, Moved layer s (s.rollback layer w).1.2 w (s.rollback layer w).2 own :=
  (settled.ended_rollback layer w).moved

theorem dispatch_moved (settled : s.Settled) {s' : Session} (same : SameConnection s s')
    (layer : DataLayer σ) {call : Call} (kind : call.kind = .command) (w : World σ) :
    ∃ own, Moved layer s s' w (s.dispatch layer call w).2 own := by
  cases kept : s.connection? with
  | some handle =>
    rw [dispatch_inside kept (settled.active_of_some kept), layer.send_apply handle call w rfl]
    refine ⟨_, rfl, ?_, same.settled settled, same.target_eq, rfl⟩
    rw [same.connection?_eq, kept]
    exact .command _ kind
  | none =>
    obtain ⟨events, answer, state, alone, run⟩ := layer.sendAlone_spec s.target call w
    rw [dispatch_idle kept, run]
    refine ⟨events, rfl, ?_, same.settled settled, same.target_eq, rfl⟩
    rw [same.connection?_eq, kept]
    exact .life (alone.life kind)

end Session

namespace Use

variable {s : Session} {w : World σ}

theorem perform_moved (settled : s.Settled) (layer : DataLayer σ) (use : Use α) (w : World σ) :
    ∃ own, Session.Moved layer s (use.perform layer s w).1.2 w (use.perform layer s w).2 own := by
  by_cases plain : use.isPlain = true
  · obtain ⟨same, world⟩ := perform_of_isPlain plain layer s w
    rw [world]
    cases comes : use.call? s w.timeout? with
    | some call => exact Session.dispatch_moved settled same layer (kind_of_call? comes) w
    | none => exact ⟨[], .quiet (same.settled settled) same.target_eq same.connection?_eq⟩
  · cases use with
    | begin => exact (settled.started_begin layer w).moved settled
    | commit => exact (settled.ended_commit layer w).moved
    | rollback => exact Session.rollback_moved settled layer w
    | _ => exact absurd rfl plain

theorem eq_begin_of_kept {handle : Handle} (idle : s.connection? = none) (layer : DataLayer σ)
    (use : Use α) (w : World σ) (kept : (use.perform layer s w).1.2.connection? = some handle) :
    use = .begin := by
  by_cases plain : use.isPlain = true
  · have same := (perform_of_isPlain plain layer s w).1
    rw [same.connection?_eq, idle] at kept
    simp at kept
  · cases use with
    | begin => rfl
    | commit =>
      have left : (s.commit layer w).1.2.connection? = some handle := kept
      simp [Session.commit_of_idle idle, Session.idle] at left
    | rollback =>
      have left : (s.rollback layer w).1.2.connection? = some handle := kept
      simp [Session.rollback_of_idle idle, Session.idle] at left
    | _ => exact absurd rfl plain

theorem performAll_account (settled : s.Settled) (layer : DataLayer σ) (uses : List (Use α))
    {w : World σ} (h : Account layer s.target first s.connection? w.handles events) :
    ∃ own, (performAll layer s uses w).2.trace = w.trace ++ own ∧
      Account layer s.target first (performAll layer s uses w).1.connection?
        (performAll layer s uses w).2.handles (events ++ own) ∧
      (performAll layer s uses w).1.Settled ∧ (performAll layer s uses w).1.target = s.target := by
  -- The account so far is the invariant; every use takes one step from it.
  induction uses generalizing s w events with
  | nil =>
    refine ⟨[], (List.append_nil _).symm, ?_, settled, rfl⟩
    rw [List.append_nil]
    exact h
  | cons use rest ih =>
    obtain ⟨here, moved⟩ := perform_moved settled layer use w
    have after := h.step moved.step
    rw [← moved.target_eq] at after
    obtain ⟨later, trace, account, settled', target⟩ := ih moved.settled after
    have unfolds : performAll layer s (use :: rest) w =
        performAll layer (use.perform layer s w).1.2 rest (use.perform layer s w).2 := rfl
    rw [unfolds]
    refine ⟨here ++ later, ?_, ?_, settled', target.trans moved.target_eq⟩
    · rw [trace, moved.trace_eq, List.append_assoc]
    · rwa [← List.append_assoc, ← moved.target_eq]

theorem performAll_new (layer : DataLayer σ) (target : String) (uses : List (Use α)) (w : World σ) :
    ∃ own, (performAll layer (.new target) uses w).2.trace = w.trace ++ own ∧
      Account layer target w.handles (performAll layer (.new target) uses w).1.connection?
        (performAll layer (.new target) uses w).2.handles own ∧
      (performAll layer (.new target) uses w).1.Settled ∧
      (performAll layer (.new target) uses w).1.target = target := by
  have start : Account layer target w.handles none w.handles [] := .idle .start
  exact performAll_account (Session.settled_new target) layer uses start

end Use

end TypedSql
