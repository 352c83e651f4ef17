import TypedSql.Proofs.Session.Account
import TypedSql.Proofs.Session.Answers

namespace TypedSql

variable {σ α : Type} {layer : DataLayer σ} {target : String} {handle : Handle} {call : Call}
  {events events' : List Event} {calls calls' : List Call} {state state' : σ}

def asked (events : List Event) : List Call := (events.map (·.call)).filter (·.kind.asks)

theorem asked_append (events events' : List Event) : asked (events ++ events') = asked events ++ asked events' := by
  simp only [asked, List.map_append, List.filter_append]

/-- In these events just these calls were asked, and they all succeeded. -/
structure Asks (events : List Event) (calls : List Call) : Prop where
  asked_eq : asked events = calls
  succeeded : ∀ e ∈ events, e.call.kind.asks = true → e.succeeded = true

namespace Asks

theorem nil : Asks [] [] := ⟨rfl, fun _ mem => by cases mem⟩

theorem append (h : Asks events calls) (h' : Asks events' calls') :
    Asks (events ++ events') (calls ++ calls') where
  asked_eq := by rw [asked_append, h.asked_eq, h'.asked_eq]
  succeeded e mem := (List.mem_append.mp mem).elim (h.succeeded e) (h'.succeeded e)

theorem single (handle : Handle) (asks : call.kind.asks = true) : Asks [⟨handle, call, true⟩] [call] where
  asked_eq := List.filter_cons_of_pos asks
  succeeded e mem _ := by rw [List.mem_singleton.mp mem]

theorem silent {e : Event} (h : e.call.kind.asks = false) : Asks [e] [] where
  asked_eq := List.filter_cons_of_neg (by rw [h]; exact Bool.false_ne_true)
  succeeded e' mem asks := by
    rw [List.mem_singleton.mp mem, h] at asks
    cases asks

end Asks

theorem Attempt.asks {answer : call.Answer} (h : Attempt layer handle call state events (.ok answer) state')
    (asks : call.kind.asks = true) : Asks events [call] := by
  cases h with
  | opened found granted made => exact Asks.append (.silent rfl) (.single handle asks)
  | found found made => exact .single handle asks

theorem Alone.asks {answer : call.Answer} (h : Alone layer target call handle state events (.ok answer) state')
    (asks : call.kind.asks = true) : Asks events [call] := by
  cases h with
  | connected asked attempt released =>
    have before : Asks [⟨handle, .connect target, true⟩] [] := .silent rfl
    exact (before.append (attempt.asks asks)).append (.silent rfl)

theorem Beginning.asks (h : Beginning layer target handle state events (.ok ()) state') :
    Asks events [.begin] := by
  cases h with
  | begun asked attempt => exact Asks.append (.silent rfl) (attempt.asks rfl)

theorem Concluding.asks (h : Concluding handle call events (.ok ())) : Asks events [call] := by
  generalize result : (.ok () : Except Failure Unit) = answer at h
  cases h with
  | committed closed => exact Asks.append (.single handle rfl) (.silent rfl)
  | commitFailed failure undone closed => cases result
  | rolledBack answer closed =>
    rw [← result]
    exact Asks.append (.single handle rfl) (.silent rfl)

namespace Use

variable {s : Session} {w : World σ} {use : Use α}

/-- The call that a use asks of the server where it succeeds. -/
def asks? (s : Session) (default? : Option Nat) : Use α → Option Call
  | .begin => if s.inTransaction then none else some .begin
  | .commit => if s.inTransaction then some .commit else none
  | .rollback => if s.inTransaction then some .rollback else none
  | use => use.call? s default?

/-- Whether a transaction is open after a use that succeeds. -/
def leavesOpen (before : Bool) : Use α → Bool
  | .begin => true
  | .commit => false
  | .rollback => false
  | _ => before

/-- A use in the world `w` that asked its call, and nothing else, and succeeded in it: how it leaves the
session and the world. -/
structure Asked (s s' : Session) (use : Use α) (w w' : World σ) : Prop where
  trace_eq : ∃ events, w'.trace = w.trace ++ events ∧ Asks events (use.asks? s w.timeout?).toList
  inTransaction_eq : s'.inTransaction = use.leavesOpen s.inTransaction

theorem asked_started {r : (Except Failure Unit × Session) × World σ} (settled : s.Settled)
    (h : Session.Started layer s w r) (ok : r.1.1.isOk = true) : (begin : Use α).Asked s r.1.2 w r.2 := by
  cases h with
  | already active =>
    refine ⟨⟨[], (List.append_nil _).symm, ?_⟩, active⟩
    rw [asks?, if_pos active]
    exact .nil
  | failed unheld beginning => cases ok
  | started unheld beginning =>
    refine ⟨⟨_, rfl, ?_⟩, rfl⟩
    rw [asks?, if_neg (by simp [settled.inactive_of_none unheld])]
    exact beginning.asks

/-- A use that ends a transaction asks for that end where there is one to end. -/
theorem asked_ended {r : (Except Failure Unit × Session) × World σ} (settled : s.Settled)
    (h : s.Ended call w r) (ok : r.1.1.isOk = true)
    (asks : use.asks? s w.timeout? = if s.inTransaction then some call else none)
    (leaves : use.leavesOpen s.inTransaction = false) : use.Asked s r.1.2 w r.2 := by
  cases h with
  | idle unheld =>
    refine ⟨⟨[], (List.append_nil _).symm, ?_⟩, leaves.symm⟩
    rw [asks, if_neg (by simp [settled.inactive_of_none unheld])]
    exact .nil
  | @concluded _ own answer held concluding state =>
    refine ⟨⟨own, rfl, ?_⟩, leaves.symm⟩
    rw [asks, if_pos (settled.active_of_some held)]
    cases answer with
    | error failure => cases ok
    | ok _ => exact concluding.asks

theorem asked_dispatch {answer : call.Answer} (settled : s.Settled) (kind : call.kind = .command)
    (ok : (s.dispatch layer call w).1 = .ok answer) :
    ∃ events, (s.dispatch layer call w).2.trace = w.trace ++ events ∧ Asks events [call] := by
  have asks : call.kind.asks = true := by rw [kind]; rfl
  cases held : s.connection? with
  | some handle =>
    rw [Session.dispatch_inside held (settled.active_of_some held)] at ok ⊢
    cases made : layer.answer handle call w.layer with
    | mk result state =>
      rw [layer.send_apply handle call w made] at ok ⊢
      cases ok
      exact ⟨_, rfl, .single handle asks⟩
  | none =>
    obtain ⟨events, result, state, alone, run⟩ := layer.sendAlone_spec s.target call w
    rw [Session.dispatch_idle held, run] at ok ⊢
    cases ok
    exact ⟨events, rfl, alone.asks asks⟩

theorem asks?_of_isPlain (plain : use.isPlain = true) (s : Session) (default? : Option Nat) :
    use.asks? s default? = use.call? s default? := by
  cases use <;> first | rfl | cases plain

theorem asked_plain (settled : s.Settled) (plain : use.isPlain = true)
    (ok : (use.perform layer s w).1.1.isOk = true) :
    use.Asked s (use.perform layer s w).1.2 w (use.perform layer s w).2 := by
  obtain ⟨same, world⟩ := perform_of_isPlain plain layer s w
  have leaves : use.leavesOpen s.inTransaction = s.inTransaction := by
    cases use <;> first | rfl | cases plain
  refine ⟨?_, same.inTransaction_eq.trans leaves.symm⟩
  rw [world, asks?_of_isPlain plain]
  cases comes : use.call? s w.timeout? with
  | none => exact ⟨[], (List.append_nil _).symm, .nil⟩
  | some call =>
    have read := readOff_perform comes layer
    cases dispatched : (s.dispatch layer call w).1 with
    | error failure =>
      rw [read.eq_error dispatched] at ok
      cases ok
    | ok answer => exact asked_dispatch settled (kind_of_call? comes) dispatched

/-- A use that succeeds asked its call and nothing else. -/
theorem asked_perform (settled : s.Settled) (ok : (use.perform layer s w).1.1.isOk = true) :
    use.Asked s (use.perform layer s w).1.2 w (use.perform layer s w).2 := by
  have answered : ∀ {answer : Except Failure Unit},
      (answer.map fun _ => (none : Option (Session.Returned (Statement.Result α)))).isOk = true →
        answer.isOk = true := fun ok => (isOk_map _ _).symm.trans ok
  by_cases plain : use.isPlain = true
  · exact asked_plain settled plain ok
  · cases use with
    | begin => exact asked_started settled (settled.started_begin layer w) (answered ok)
    | commit => exact asked_ended settled (settled.ended_commit layer w) (answered ok) rfl rfl
    | rollback => exact asked_ended settled (settled.ended_rollback layer w) (answered ok) rfl rfl
    | _ => exact absurd rfl plain

/-- All of the uses succeed, one after the other. -/
def AllSucceed (layer : DataLayer σ) (s : Session) : List (Use α) → World σ → Prop
  | [], _ => True
  | use :: rest, w =>
    (use.perform layer s w).1.1.isOk = true ∧
      AllSucceed layer (use.perform layer s w).1.2 rest (use.perform layer s w).2

end Use

end TypedSql
