import Mathlib.Data.List.Induction
import TypedSql.Proofs.Session.Desk

namespace TypedSql

variable {σ α : Type}

/-- The sessions of one process, each under a name, and the surroundings that they share. -/
structure Host (σ : Type) where
  desks : Nat → Option Desk
  world : World σ

/-- One thing that happens in a process, an operation of a session as a whole; whose turn it is, is left open. -/
inductive Move (α : Type) where
  | setDefault (seconds : Nat)
  | clearDefault
  | create (i : Nat) (target : String)
  | discard (i : Nat) (ending : Ending)
  | turn (i : Nat) (work : Work α)

namespace Move

/-- The session that a move is about. -/
def about? : Move α → Option Nat
  | .create i _ => some i
  | .discard i _ => some i
  | .turn i _ => some i
  | _ => none

/-- What a move makes of the limit of a session: a session is made without one. -/
def limit? (i : Nat) : Move α → Option (Option Nat)
  | .create j _ => if j = i then some none else none
  | .turn j work => if j = i then work.limit?.map some else none
  | _ => none

/-- What a move makes of the default. -/
def default? : Move α → Option (Option Nat)
  | .setDefault seconds => some (some seconds)
  | .clearDefault => some none
  | _ => none

theorem limit?_of_ne {move : Move α} {j : Nat} (other : move.about? ≠ some j) : move.limit? j = none := by
  cases move with
  | setDefault seconds => rfl
  | clearDefault => rfl
  | create i target => exact if_neg fun same => other (congrArg some same)
  | discard i ending => rfl
  | turn i work => exact if_neg fun same => other (congrArg some same)

end Move

/-- The limit last given to a session since it was made. -/
def lastLimit? (i : Nat) (moves : List (Move α)) : Option Nat := (moves.filterMap (·.limit? i)).getLast?.join

/-- The default as it was last set or cleared, else as it was at first. -/
def lastDefault? (initial? : Option Nat) (moves : List (Move α)) : Option Nat :=
  (moves.filterMap Move.default?).getLast?.getD initial?

theorem lastLimit?_concat (i : Nat) (moves : List (Move α)) (move : Move α) :
    lastLimit? i (moves ++ [move]) = (move.limit? i).getD (lastLimit? i moves) := by
  unfold lastLimit?
  cases given : move.limit? i <;> simp [List.filterMap_append, given]

theorem lastDefault?_concat (initial? : Option Nat) (moves : List (Move α)) (move : Move α) :
    lastDefault? initial? (moves ++ [move]) = move.default?.getD (lastDefault? initial? moves) := by
  unfold lastDefault?
  cases given : move.default? <;> simp [List.filterMap_append, given]

namespace Host

variable {host : Host σ} {initial? : Option Nat} {history : List (Move α)}

def start (w : World σ) : Host σ := ⟨fun _ => none, w⟩

/-- What letting go of a session leaves behind. -/
def without (layer : DataLayer σ) (host : Host σ) (i : Nat) (ending : Ending) : World σ :=
  match host.desks i with
  | none => host.world
  | some desk => (ending.perform layer desk.session host.world).2

/-- A session made in the place of another lets go of the other. -/
def perform (layer : DataLayer σ) (host : Host σ) : Move α → Host σ
  | .setDefault seconds => { host with world := host.world.setTimeout seconds }
  | .clearDefault => { host with world := host.world.clearTimeout }
  | .create i target => ⟨Function.update host.desks i (some { session := .new target }), host.without layer i .drop⟩
  | .discard i ending => ⟨Function.update host.desks i none, host.without layer i ending⟩
  | .turn i work =>
    match host.desks i with
    | none => host
    | some desk =>
      let (left, world) := desk.perform layer work host.world
      ⟨Function.update host.desks i (some left), world⟩

def run (layer : DataLayer σ) (host : Host σ) (moves : List (Move α)) : Host σ := moves.foldl (perform layer) host

theorem run_concat (layer : DataLayer σ) (host : Host σ) (moves : List (Move α)) (move : Move α) :
    run layer host (moves ++ [move]) = (run layer host moves).perform layer move := by
  simp only [run, List.foldl_append, List.foldl_cons, List.foldl_nil]

def Settled (host : Host σ) : Prop := ∀ i desk, host.desks i = some desk → desk.session.Settled

/-- The limits of all sessions and the default are what a history says. -/
structure Follows (host : Host σ) (initial? : Option Nat) (history : List (Move α)) : Prop where
  settled : host.Settled
  limit_eq : ∀ i desk, host.desks i = some desk → desk.session.timeout? = lastLimit? i history
  default_eq : host.world.timeout? = lastDefault? initial? history

/-- What a move records behind a history: work hands over the command that it comes to, under the limit last given
to its session, else under the default of this moment; every other move hands over nothing. -/
def Timed (host : Host σ) (initial? : Option Nat) (history : List (Move α)) (events : List Event) : Move α → Prop
  | .turn i work =>
    let command? := (host.desks i).bind (·.command? host.world.timeout? work)
    (handedOver events = command?.toList ∨ handedOver events = [] ∧ Unreached events) ∧
      ∀ command ∈ handedOver events, command.timeout = (lastLimit? i history <|> lastDefault? initial? history)
  | _ => handedOver events = []

theorem perform_turn_of_none {i : Nat} (absent : host.desks i = none) (layer : DataLayer σ) (work : Work α) :
    host.perform layer (.turn i work) = host := by
  simp only [perform, absent]

theorem perform_turn {i : Nat} {desk : Desk} (found : host.desks i = some desk) (layer : DataLayer σ)
    (work : Work α) : host.perform layer (.turn i work) =
      ⟨Function.update host.desks i (some (desk.perform layer work host.world).1),
        (desk.perform layer work host.world).2⟩ := by
  simp only [perform, found]
  rfl

theorem desks_perform_of_ne {move : Move α} {j : Nat} (other : move.about? ≠ some j) (layer : DataLayer σ)
    (host : Host σ) : (host.perform layer move).desks j = host.desks j := by
  cases move with
  | setDefault seconds => rfl
  | clearDefault => rfl
  | create i target => exact Function.update_of_ne (fun same => other (congrArg some same.symm)) _ _
  | discard i ending => exact Function.update_of_ne (fun same => other (congrArg some same.symm)) _ _
  | turn i work =>
    cases found : host.desks i with
    | none => rw [perform_turn_of_none found]
    | some desk =>
      rw [perform_turn found]
      exact Function.update_of_ne (fun same => other (congrArg some same.symm)) _ _

theorem handsOver_without (settled : host.Settled) (layer : DataLayer σ) (i : Nat) (ending : Ending) :
    host.world.HandsOver none (host.without layer i ending) := by
  unfold without
  cases found : host.desks i with
  | none => exact host.world.handsOver_self
  | some desk => exact ending.handsOver (settled i desk found) layer host.world

/-- The default of this moment is what the move made of it. -/
theorem timeout?_perform (settled : host.Settled) (layer : DataLayer σ) (move : Move α) :
    (host.perform layer move).world.timeout? = move.default?.getD host.world.timeout? := by
  cases move with
  | setDefault seconds => rfl
  | clearDefault => rfl
  | create i target => exact (handsOver_without settled layer i .drop).timeout?_eq
  | discard i ending => exact (handsOver_without settled layer i ending).timeout?_eq
  | turn i work =>
    cases found : host.desks i with
    | none => rw [perform_turn_of_none found]; rfl
    | some desk =>
      rw [perform_turn found]
      exact (desk.worked_perform (settled i desk found) layer work host.world).handsOver.timeout?_eq

/-- A session that is there behind a move was made by it, or was there before and has the limit that the move gave
it, if it gave one. -/
theorem exists_of_desks_perform {move : Move α} {j : Nat} {left : Desk} (settled : host.Settled)
    (layer : DataLayer σ) (found : (host.perform layer move).desks j = some left) :
    left.session.Settled ∧ (move.limit? j = some left.session.timeout? ∨
      ∃ desk, host.desks j = some desk ∧ left.session.timeout? = (move.limit? j).getD desk.session.timeout?) := by
  by_cases own : move.about? = some j
  · cases move with
    | setDefault seconds => cases own
    | clearDefault => cases own
    | create i target =>
      cases own
      cases (Function.update_self j _ host.desks).symm.trans found
      exact ⟨rfl, Or.inl (if_pos rfl)⟩
    | discard i ending =>
      cases own
      cases (Function.update_self j _ host.desks).symm.trans found
    | turn i work =>
      cases own
      cases before : host.desks j with
      | none =>
        rw [perform_turn_of_none before, before] at found
        cases found
      | some desk =>
        rw [perform_turn before] at found
        cases (Function.update_self j _ host.desks).symm.trans found
        have worked := desk.worked_perform (settled j desk before) layer work host.world
        refine ⟨worked.settled, Or.inr ⟨desk, rfl, ?_⟩⟩
        rw [worked.timeout?_eq, Move.limit?, if_pos rfl]
        cases work.limit? <;> rfl
  · rw [desks_perform_of_ne own] at found
    refine ⟨settled j left found, Or.inr ⟨left, found, ?_⟩⟩
    rw [Move.limit?_of_ne own]
    rfl

theorem Follows.perform (h : host.Follows initial? history) (layer : DataLayer σ) (move : Move α) :
    (host.perform layer move).Follows initial? (history ++ [move]) where
  settled j left found := (exists_of_desks_perform h.settled layer found).1
  limit_eq j left found := by
    rw [lastLimit?_concat]
    rcases (exists_of_desks_perform h.settled layer found).2 with made | ⟨desk, before, limit⟩
    · rw [made, Option.getD_some]
    · rw [limit, h.limit_eq j desk before]
  default_eq := by rw [timeout?_perform h.settled, lastDefault?_concat, h.default_eq]

/-- What a move records, by the history behind which it is made. -/
theorem Follows.timed (h : host.Follows initial? history) (layer : DataLayer σ) (move : Move α) :
    ∃ events, (host.perform layer move).world.trace = host.world.trace ++ events ∧
      host.Timed initial? history events move := by
  have quiet : ∀ {w : World σ}, host.world.HandsOver none w →
      ∃ events, w.trace = host.world.trace ++ events ∧ handedOver events = [] := by
    intro w silent
    obtain ⟨events, trace, once⟩ := silent.recorded
    exact ⟨events, trace, once.elim id (·.1)⟩
  cases move with
  | setDefault seconds => exact ⟨[], (List.append_nil _).symm, rfl⟩
  | clearDefault => exact ⟨[], (List.append_nil _).symm, rfl⟩
  | create i target => exact quiet (handsOver_without h.settled layer i .drop)
  | discard i ending => exact quiet (handsOver_without h.settled layer i ending)
  | turn i work =>
    cases found : host.desks i with
    | none =>
      rw [perform_turn_of_none found]
      refine ⟨[], (List.append_nil _).symm, Or.inl ?_, nofun⟩
      rw [found]
      rfl
    | some desk =>
      rw [perform_turn found]
      obtain ⟨events, trace, once⟩ :=
        (desk.worked_perform (h.settled i desk found) layer work host.world).handsOver.recorded
      refine ⟨events, trace, ?_⟩
      simp only [Timed, found, Option.bind_some]
      refine ⟨once, fun command mem => ?_⟩
      rcases once with once | ⟨nothing, _⟩
      · have comes : desk.command? host.world.timeout? work = some command := by
          rw [once] at mem
          exact Option.mem_toList.mp mem
        rw [Desk.timeout_of_command? comes, h.limit_eq i desk found, h.default_eq]
      · rw [nothing] at mem
        cases mem

theorem follows_start (w : World σ) : (start w).Follows w.timeout? ([] : List (Move α)) where
  settled _ _ found := nomatch found
  limit_eq _ _ found := nomatch found
  default_eq := rfl

theorem follows_run (layer : DataLayer σ) (w : World σ) (moves : List (Move α)) :
    (run layer (start w) moves).Follows w.timeout? moves := by
  induction moves using List.reverseRecOn with
  | nil => exact follows_start w
  | append_singleton history move ih =>
    rw [run_concat]
    exact ih.perform layer move

/-- The whole trace is what the moves recorded one by one, each behind those before it. -/
theorem exists_recorded (layer : DataLayer σ) (w : World σ) (moves : List (Move α)) :
    ∃ recorded : List (List Event), (run layer (start w) moves).world.trace = w.trace ++ recorded.flatten ∧
      recorded.length = moves.length ∧
      ∀ k events move, recorded[k]? = some events → moves[k]? = some move →
        (run layer (start w) (moves.take k)).Timed w.timeout? (moves.take k) events move := by
  induction moves using List.reverseRecOn with
  | nil => exact ⟨[], (List.append_nil _).symm, rfl, fun k events move none => nomatch none⟩
  | append_singleton history move ih =>
    obtain ⟨recorded, trace, long, timed⟩ := ih
    obtain ⟨events, last, own⟩ := (follows_run layer w history).timed layer move
    refine ⟨recorded ++ [events], ?_, ?_, ?_⟩
    · rw [run_concat, last, trace, List.flatten_append, List.flatten_singleton, List.append_assoc]
    · rw [List.length_append, List.length_append, long, List.length_singleton, List.length_singleton]
    · intro k events' move' at_ turn
      rcases Nat.lt_or_ge k history.length with before | behind
      · rw [List.getElem?_append_left before] at turn
        rw [List.getElem?_append_left (long ▸ before)] at at_
        rw [List.take_append_of_le_length (Nat.le_of_lt before)]
        exact timed k events' move' at_ turn
      · obtain rfl : k = history.length := by
          have within := (List.getElem?_eq_some_iff.mp turn).1
          rw [List.length_append, List.length_singleton] at within
          omega
        rw [List.getElem?_concat_length] at turn
        rw [← long, List.getElem?_concat_length] at at_
        cases turn
        cases at_
        rw [List.take_left]
        exact own

/-- However the sessions of a process take turns, and whenever its default is set or cleared, a command that a turn
hands over carries the limit last given to its session, else the default of that moment, else none; the trace holds
no other commands. What is done in one session changes neither the default nor another session, and is without
effect on the limits of all later commands of others. -/
theorem run_carries_limits (layer : DataLayer σ) (w : World σ) (moves : List (Move α)) :
    let host := run layer (start w) moves
    (∀ i desk, host.desks i = some desk → desk.session.timeout? = lastLimit? i moves) ∧
      host.world.timeout? = lastDefault? w.timeout? moves ∧
      (∃ recorded : List (List Event), host.world.trace = w.trace ++ recorded.flatten ∧
        recorded.length = moves.length ∧
        ∀ k events move, recorded[k]? = some events → moves[k]? = some move →
          (run layer (start w) (moves.take k)).Timed w.timeout? (moves.take k) events move) ∧
      ∀ (move : Move α) i, move.about? = some i →
        (host.perform layer move).world.timeout? = host.world.timeout? ∧
        ∀ j, j ≠ i → (host.perform layer move).desks j = host.desks j ∧
          ∀ before after : List (Move α),
            lastLimit? j (before ++ move :: after) = lastLimit? j (before ++ after) ∧
            lastDefault? w.timeout? (before ++ move :: after) = lastDefault? w.timeout? (before ++ after) := by
  intro host
  have follows : host.Follows w.timeout? moves := follows_run layer w moves
  refine ⟨follows.limit_eq, follows.default_eq, exists_recorded layer w moves, ?_⟩
  intro move i about
  have silent : move.default? = none := by
    cases move <;> first | rfl | cases about
  refine ⟨by rw [timeout?_perform follows.settled, silent, Option.getD_none], fun j apart => ?_⟩
  have other : move.about? ≠ some j := fun same => apart (Option.some.inj (same.symm.trans about))
  refine ⟨desks_perform_of_ne other layer host, fun before after => ⟨?_, ?_⟩⟩
  · simp only [lastLimit?, List.filterMap_append, List.filterMap_cons, Move.limit?_of_ne other]
  · simp only [lastDefault?, List.filterMap_append, List.filterMap_cons, silent]

/-- Two sessions in turn, the default set while a chain is being written. -/
theorem run_carries_limits_in_turn :
    let w : World Recorder.State := ⟨⟨{}, []⟩, 0, none, []⟩
    let moves : List (Move Unit) := [.create 0 "", .turn 0 (.operation (.execute "SELECT 1" .empty)), .setDefault 30,
      .create 1 "", .turn 0 (.operation .begin), .turn 0 (.start (.select ["Id"])),
      .turn 0 (.add (.fromTable "Users" none)), .turn 1 (.operation (.setTimeout 0)), .setDefault 45,
      .turn 1 (.start (.procedure "dbo.Purge")), .turn 0 (.finish (.query .rows)), .clearDefault,
      .turn 1 (.finish .callExecute), .discard 0 .drop]
    let host := run Recorder.layer (start w) moves
    (handedOver host.world.trace).map (·.timeout) = [none, some 45, some 0] ∧
      (∃ desk, host.desks 1 = some desk ∧ desk.session.timeout? = lastLimit? 1 moves) ∧
      (∃ recorded : List (List Event), host.world.trace = recorded.flatten ∧
        ∃ events, recorded[10]? = some events ∧ ∀ command ∈ handedOver events, command.timeout = some 45) ∧
      (host.perform Recorder.layer (.turn 0 (.operation (.setTimeout 9) : Work Unit))).desks 1 = host.desks 1 := by
  intro w moves host
  obtain ⟨limits, _, ⟨recorded, trace, long, timed⟩, apart⟩ := run_carries_limits Recorder.layer w moves
  have present : (host.desks 1).isSome = true := by decide +kernel
  obtain ⟨desk, found⟩ := Option.isSome_iff_exists.mp present
  have within : 10 < recorded.length := by
    rw [long]
    decide
  have last := List.getElem?_eq_getElem within
  refine ⟨by decide +kernel, ⟨desk, found, limits 1 desk found⟩, ⟨recorded, trace, _, last, ?_⟩, ?_⟩
  · exact (timed 10 _ _ last rfl).2
  · exact ((apart (.turn 0 (.operation (.setTimeout 9))) 0 rfl).2 1 (by decide)).1

end Host

end TypedSql
