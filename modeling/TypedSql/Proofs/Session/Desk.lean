import TypedSql.Proofs.Session.Release
import TypedSql.Proofs.Session.Undisturbed

namespace TypedSql

variable {σ α : Type} {layer : DataLayer σ} {s : Session} {w w' : World σ} {call : Call} {command : Command}
  {events : List Event}

/-- What comes to one command or to none hands the command over once, or not at all where no connection is to be
had. -/
structure World.HandsOver (w : World σ) (command? : Option Command) (w' : World σ) : Prop where
  timeout?_eq : w'.timeout? = w.timeout?
  recorded : ∃ events, w'.trace = w.trace ++ events ∧
    (handedOver events = command?.toList ∨ handedOver events = [] ∧ Unreached events)

theorem World.handsOver_self (w : World σ) : w.HandsOver none w :=
  ⟨rfl, [], (List.append_nil _).symm, Or.inl rfl⟩

theorem Call.exists_command (kind : call.kind = .command) : ∃ command, call.command? = some command := by
  cases call with
  | execute command => exact ⟨command, rfl⟩
  | query command => exact ⟨command, rfl⟩
  | _ => cases kind

theorem handedOver_eq_nil (silent : ∀ e ∈ events, e.call.kind ≠ .command) : handedOver events = [] := by
  refine List.filterMap_eq_nil_iff.mpr fun e mem => ?_
  cases carried : e.call.command? with
  | none => rfl
  | some command =>
    refine absurd ?_ (silent e mem)
    cases call : e.call <;> first | rfl | (rw [call] at carried; cases carried)

theorem Attempt.handedOver_begin {handle : Handle} {state state' : σ} {answer : Except Failure Unit}
    (h : Attempt layer handle .begin state events answer state') : TypedSql.handedOver events = [] := by
  refine handedOver_eq_nil fun e mem => ?_
  rcases h.kind e mem with opened | ⟨begun, _⟩
  · rw [opened]; nofun
  · rw [begun]; nofun

theorem Beginning.handedOver {target : String} {handle : Handle} {state state' : σ} {answer : Except Failure Unit}
    (h : Beginning layer target handle state events answer state') : TypedSql.handedOver events = [] := by
  cases h with
  | refused asked => rfl
  | begun asked attempt =>
    have own := attempt.handedOver_begin
    exact own
  | unbegun asked attempt released =>
    have own := attempt.handedOver_begin
    rw [handedOver_append]
    exact (List.append_nil _).trans own

theorem Concluding.handedOver {handle : Handle} {answer : Except Failure Unit}
    (h : Concluding handle call events answer) : TypedSql.handedOver events = [] := by
  cases h <;> rfl

namespace Session

theorem Sent.handsOver (h : s.Sent call command w w') : w.HandsOver (some command) w' := by
  obtain ⟨events, trace, once, _, _⟩ := h.sent
  exact ⟨h.timeout?_eq, events, trace, once⟩

theorem Started.handsOver {r : (Except Failure Unit × Session) × World σ} (h : Started layer s w r) :
    w.HandsOver none r.2 := by
  cases h with
  | already active => exact w.handsOver_self
  | failed unheld beginning => exact ⟨rfl, _, rfl, Or.inl beginning.handedOver⟩
  | started unheld beginning => exact ⟨rfl, _, rfl, Or.inl beginning.handedOver⟩

theorem Ended.handsOver {r : (Except Failure Unit × Session) × World σ} (h : s.Ended call w r) :
    w.HandsOver none r.2 := by
  cases h with
  | idle unheld => exact w.handsOver_self
  | concluded held concluding state => exact ⟨rfl, _, rfl, Or.inl concluding.handedOver⟩

theorem timeout_command {timeout : Option Nat} {subject : Subject} (h : s.command timeout subject = .ok command) :
    command.timeout = timeout := by
  cases subject with
  | written => cases h; rfl
  | given text parameters => cases h; rfl
  | procedure =>
    unfold Session.command at h
    cases called : s.procedure? with
    | none => simp [called] at h
    | some call =>
      simp only [called, Except.ok.injEq] at h
      rw [← h]
      rfl

end Session

/-- Letting go of a session, or disposing of it, hands nothing over. -/
theorem Ending.handsOver (settled : s.Settled) (layer : DataLayer σ) (ending : Ending) (w : World σ) :
    w.HandsOver none (ending.perform layer s w).2 := by
  rw [ending.perform_world]
  exact (settled.ended_rollback layer w).handsOver

theorem Statement.timeout_of_call? {t : Statement} {terminal : Terminal α} {default? : Option Nat}
    (comes : t.call? default? terminal = some call) (carries : call.command? = some command) :
    command.timeout = (t.session.timeout? <|> default?) := by
  obtain ⟨made, made_eq, rfl⟩ := exists_of_call? comes
  rw [terminal.command?_call] at carries
  cases carries
  exact Session.timeout_command made_eq

theorem Statement.handsOver_finish {t : Statement} (settled : t.session.Settled) (layer : DataLayer σ)
    (terminal : Terminal α) (w : World σ) :
    w.HandsOver ((t.call? w.timeout? terminal).bind Call.command?) (t.finish layer terminal w).2 := by
  rw [finish_world]
  cases comes : t.call? w.timeout? terminal with
  | none => exact w.handsOver_self
  | some call =>
    obtain ⟨command, _, rfl⟩ := exists_of_call? comes
    rw [Option.bind_some, terminal.command?_call]
    exact (settled.sent_dispatch (terminal.command?_call command) layer w).handsOver

namespace Use

variable {use : Use α}

theorem timeout_of_call? {default? : Option Nat} (comes : use.call? s default? = some call)
    (carries : call.command? = some command) : command.timeout = (s.timeout? <|> default?) := by
  cases use with
  | query text parameters take => cases comes; cases carries; rfl
  | execute text parameters => cases comes; cases carries; rfl
  | write opening clauses terminal? =>
    cases terminal? with
    | none => cases comes
    | some terminal =>
      simp only [call?] at comes
      split at comes
      next t left added =>
        split at comes
        next =>
          rw [Statement.timeout_of_call? comes carries, ((Statement.sameSetting_written added).2 t rfl).timeout?_eq]
        next => cases comes
      next => cases comes
  | _ => cases comes

theorem handsOver_perform (settled : s.Settled) (layer : DataLayer σ) (use : Use α) (w : World σ) :
    w.HandsOver ((use.call? s w.timeout?).bind Call.command?) (use.perform layer s w).2 := by
  cases comes : use.call? s w.timeout? with
  | some call =>
    obtain ⟨command, carries⟩ := call.exists_command (kind_of_call? comes)
    rw [Option.bind_some, carries]
    exact (sent_perform settled comes carries layer).handsOver
  | none =>
    cases plain : use.isPlain with
    | true =>
      rw [(perform_of_isPlain plain layer s w).2, comes]
      exact w.handsOver_self
    | false =>
      cases use with
      | begin => exact (settled.started_begin layer w).handsOver
      | commit => exact (settled.ended_commit layer w).handsOver
      | rollback => exact (settled.ended_rollback layer w).handsOver
      | _ => cases plain

end Use

/-- A session in use, and how far the statement is that is being written in it. -/
structure Desk where
  session : Session
  stage? : Option Stage := none

/-- One thing done at a desk. A statement may be written step by step, so that others come in between. -/
inductive Work (α : Type) where
  | operation (use : Use α)
  | start (opening : Opening)
  | add (clause : Clause)
  | finish (terminal : Statement.Terminal α)

namespace Desk

def statement? (desk : Desk) : Option Statement := desk.stage?.map (⟨·, desk.session⟩)

/-- Adds a clause where the statement admits it; one that fails ends the statement. -/
def add (desk : Desk) (clause : Clause) : Desk :=
  match desk.statement?.bind (·.add? clause) with
  | none => desk
  | some (.error _, session) => { session }
  | some (.ok t, _) => ⟨t.session, some t.stage⟩

/-- Whatever else is done with the session ends the statement that was being written. -/
def perform (layer : DataLayer σ) (desk : Desk) : Work α → Action σ Desk
  | .operation use => return { session := (← use.perform layer desk.session).2 }
  | .start opening =>
    let t := Statement.start desk.session opening
    return ⟨t.session, some t.stage⟩
  | .add clause => return desk.add clause
  | .finish terminal =>
    match desk.statement?.bind (·.finish? layer terminal) with
    | none => return desk
    | some finish => do
      let _ ← finish
      return { session := desk.session }

/-- The statement at hand, where it may be run in this way. -/
def ready? (desk : Desk) (terminal : Statement.Terminal α) : Option Statement :=
  desk.statement?.filter (terminal.admitted ·.stage)

/-- The call that work comes to under a default limit, if it runs a command. -/
def call? (desk : Desk) (default? : Option Nat) : Work α → Option Call
  | .operation use => use.call? desk.session default?
  | .finish terminal => (desk.ready? terminal).bind (·.call? default? terminal)
  | _ => none

def command? (desk : Desk) (default? : Option Nat) (work : Work α) : Option Command :=
  (desk.call? default? work).bind Call.command?

end Desk

/-- The limit that work gives to the session. -/
def Work.limit? : Work α → Option Nat
  | .operation use => use.limit?
  | _ => none

namespace Desk

variable {desk : Desk} {work : Work α}

theorem sameSetting_add (desk : Desk) (clause : Clause) : desk.session.SameSetting (desk.add clause).session := by
  unfold add
  cases written : desk.statement? with
  | none => exact .refl desk.session
  | some t =>
    obtain ⟨stage, _, rfl⟩ := Option.map_eq_some_iff.mp written
    have same := clause.sameSetting_perform desk.session
    rw [Option.bind_some]
    unfold Statement.add?
    cases stage.next? clause with
    | none => exact .refl desk.session
    | some next => cases performed : clause.perform desk.session with
      | mk answer session =>
        rw [performed] at same
        cases answer <;> exact same

/-- What work keeps and what it changes: the limit of the session only where it gives one. -/
structure Worked (desk desk' : Desk) (work : Work α) (w w' : World σ) : Prop where
  settled : desk'.session.Settled
  timeout?_eq : desk'.session.timeout? = (work.limit? <|> desk.session.timeout?)
  handsOver : w.HandsOver (desk.command? w.timeout? work) w'

theorem session_of_ready? {terminal : Statement.Terminal α} {t : Statement} (ready : desk.ready? terminal = some t) :
    t.session = desk.session := by
  obtain ⟨written, _⟩ := Option.filter_eq_some_iff.mp ready
  obtain ⟨stage, _, rfl⟩ := Option.map_eq_some_iff.mp written
  rfl

theorem finish?_statement? (layer : DataLayer σ) (desk : Desk) (terminal : Statement.Terminal α) :
    desk.statement?.bind (·.finish? layer terminal) = (desk.ready? terminal).map (·.finish layer terminal) := by
  unfold ready?
  cases desk.statement? with
  | none => rfl
  | some t =>
    rw [Option.bind_some, Statement.finish?, Option.filter_some]
    split <;> rfl

theorem worked_finish (settled : desk.session.Settled) (layer : DataLayer σ) (terminal : Statement.Terminal α)
    (w : World σ) :
    desk.Worked (desk.perform layer (.finish terminal) w).1 (.finish terminal) w
      (desk.perform layer (.finish terminal) w).2 := by
  cases ready : desk.ready? terminal with
  | none =>
    have run : desk.perform layer (.finish terminal) w = (desk, w) := by
      simp only [perform, finish?_statement?, ready, Option.map_none]
      rfl
    rw [run]
    refine ⟨settled, rfl, ?_⟩
    rw [command?, call?, ready]
    exact w.handsOver_self
  | some t =>
    have run : desk.perform layer (.finish terminal) w =
        ({ session := desk.session }, (t.finish layer terminal w).2) := by
      simp only [perform, finish?_statement?, ready, Option.map_some]
      rfl
    rw [run]
    refine ⟨settled, rfl, ?_⟩
    rw [command?, call?, ready]
    rw [← session_of_ready? ready] at settled
    exact Statement.handsOver_finish settled layer terminal w

theorem worked_perform (settled : desk.session.Settled) (layer : DataLayer σ) (work : Work α) (w : World σ) :
    desk.Worked (desk.perform layer work w).1 work w (desk.perform layer work w).2 := by
  cases work with
  | operation use =>
    obtain ⟨_, moved⟩ := use.perform_moved settled layer w
    exact ⟨moved.settled, use.timeout?_perform settled layer w, use.handsOver_perform settled layer w⟩
  | start opening =>
    have same := opening.sameSetting_perform desk.session
    exact ⟨same.settled settled, same.timeout?_eq, w.handsOver_self⟩
  | add clause =>
    have same := desk.sameSetting_add clause
    exact ⟨same.settled settled, same.timeout?_eq, w.handsOver_self⟩
  | finish terminal => exact worked_finish settled layer terminal w

theorem timeout_of_command? {default? : Option Nat} (comes : desk.command? default? work = some command) :
    command.timeout = (desk.session.timeout? <|> default?) := by
  obtain ⟨call, called, carries⟩ := Option.bind_eq_some_iff.mp comes
  cases work with
  | operation use => exact use.timeout_of_call? called carries
  | finish terminal =>
    obtain ⟨t, ready, runs⟩ := Option.bind_eq_some_iff.mp called
    rw [← session_of_ready? ready]
    exact Statement.timeout_of_call? runs carries
  | _ => cases called

end Desk

end TypedSql
