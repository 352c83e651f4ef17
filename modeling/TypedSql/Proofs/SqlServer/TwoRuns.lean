import TypedSql.Proofs.Session.Traced
import TypedSql.Proofs.Session.TwoRuns
import TypedSql.Proofs.SqlServer.Stranded

namespace TypedSql

variable {events events' : List Event} {calls calls' : List Call} {call call' : Call} {command command' : Command}

theorem handedOver_eq_asked (events : List Event) : handedOver events = (asked events).filterMap Call.command? := by
  have silent : ∀ call : Call, (if call.kind.asks = true then call.command? else none) = call.command? := by
    intro call
    cases call <;> rfl
  simp only [asked, List.filterMap_filter, silent, List.filterMap_map]
  rfl

theorem Call.SameWording.command? (h : call.SameWording call') :
    Option.Rel Command.SameWording call.command? call'.command? := by
  cases h with
  | same call =>
    cases call.command? with
    | none => exact .none
    | some command => exact .some ⟨rfl, rfl, rfl, rfl⟩
  | execute h => exact .some h
  | query h => exact .some h

theorem sameWording_handedOver (asks : Asks events calls) (asks' : Asks events' calls')
    (same : List.Forall₂ Call.SameWording calls calls') :
    List.Forall₂ Command.SameWording (handedOver events) (handedOver events') := by
  rw [handedOver_eq_asked, handedOver_eq_asked, asks.asked_eq, asks'.asked_eq]
  exact List.rel_filterMap (fun _ _ h => h.command?) same

namespace SqlServer

variable {τ : Type} {server : Server τ}

theorem commandText_of_sameWording (h : command.SameWording command') (countRows : Bool) :
    commandText command' countRows = commandText command countRows := by
  have call (outputs : List OutputParameter) : callText command.text command'.parameters outputs =
      callText command.text command.parameters outputs := by
    simp only [callText, callArguments, h.names_eq]
  unfold commandText
  rw [h.kind_eq, h.text_eq, h.names_eq, h.outputs_eq]
  simp only [call, outputBatch]

theorem sql_requestsOf (h : call.SameWording call') :
    (requestsOf call).map (·.sql) = (requestsOf call').map (·.sql) := by
  cases h with
  | same => rfl
  | execute h => exact congrArg (fun sql => [sql]) (commandText_of_sameWording h true).symm
  | query h => exact congrArg (fun sql => [sql]) (commandText_of_sameWording h false).symm

theorem requestsOf_of_not_asks (silent : call.kind.asks = false) : requestsOf call = [] := by
  cases call <;> first | rfl | cases silent

/-- Calls that succeeded reached the server, each as its requests and in this order. -/
theorem requests_of_ran {s s' : State (τ × List Request)} (ran : Ran (layer server.recorded) s events s')
    (succeeded : ∀ e ∈ events, e.call.kind.asks = true → e.succeeded = true) :
    s'.requests = s.requests ++ (asked events).flatMap requestsOf := by
  induction ran with
  | nil => exact (List.append_nil _).symm
  | @call state state' _ handle call answer rest made _ ih =>
    have later := ih fun e mem => succeeded e (List.mem_cons_of_mem _ mem)
    have reached := requests_answer server handle call state
    rw [made] at reached
    have own : (if state.isOpen handle then requestsOf call else []) = requestsOf call := by
      cases asks : call.kind.asks with
      | false => simp [requestsOf_of_not_asks asks]
      | true =>
        cases connected : state.isOpen handle with
        | true => rfl
        | false =>
          -- Without a client the call would have failed.
          rw [answer_of_closed connected asks] at made
          have failed := succeeded _ List.mem_cons_self asks
          cases made
          cases failed
    rw [later, reached, own, List.append_assoc]
    unfold asked
    rw [List.map_cons, List.filter_cons]
    cases asks : call.kind.asks with
    | false => simp [requestsOf_of_not_asks asks]
    | true => simp

theorem requests_performAll {α : Type} {s : Session} {uses : List (Use α)}
    {w : World (State (τ × List Request))}
    (trace : (Use.performAll (layer server.recorded) s uses w).2.trace = w.trace ++ events)
    (asks : Asks events calls) :
    (Use.performAll (layer server.recorded) s uses w).2.layer.requests =
      w.layer.requests ++ calls.flatMap requestsOf := by
  obtain ⟨own, trace', ran⟩ := Traced.performAll s uses w
  cases List.append_cancel_left (trace'.symm.trans trace)
  rw [requests_of_ran ran asks.succeeded, asks.asked_eq]

end SqlServer

open SqlServer

/-- Values decide no text. Two chains of the same calls, whatever values they give, come to the same text
and the same names where they go in. Two runs of the same uses that succeed throughout, whatever their
values and whoever answers them, hold the same text and names after every use, hand over commands that
differ in values alone, and over SQL Server send the same texts in the same order. -/
theorem Session.performAll_hides_values {σ σ' τ τ' α : Type} {uses uses' : List (Use α)}
    (alike : List.Forall₂ Use.Alike uses uses') :
    (∀ (s s' : Session) opening clauses clauses' t left t' left',
      List.Forall₂ Clause.Alike clauses clauses' →
      (Statement.start s opening).addAll? clauses = some (.ok t, left) →
      (Statement.start s' opening).addAll? clauses' = some (.ok t', left') →
        t'.stage = t.stage ∧ t.session.SameWording t'.session) ∧
    (∀ (layer : DataLayer σ) (layer' : DataLayer σ') target target' w w',
      Use.AllSucceed layer (.new target) uses w → Use.AllSucceed layer' (.new target') uses' w' →
        (∀ n, (Use.performAll layer (.new target) (uses.take n) w).1.SameWording
          (Use.performAll layer' (.new target') (uses'.take n) w').1) ∧
        ∃ events events',
          (Use.performAll layer (.new target) uses w).2.trace = w.trace ++ events ∧
          (Use.performAll layer' (.new target') uses' w').2.trace = w'.trace ++ events' ∧
          List.Forall₂ Command.SameWording (handedOver events) (handedOver events')) ∧
    ∀ (server : Server τ) (server' : Server τ') target target' w w',
      Use.AllSucceed (layer server.recorded) (.new target) uses w →
      Use.AllSucceed (layer server'.recorded) (.new target') uses' w' →
        ∃ requests requests',
          (Use.performAll (layer server.recorded) (.new target) uses w).2.layer.requests =
            w.layer.requests ++ requests ∧
          (Use.performAll (layer server'.recorded) (.new target') uses' w').2.layer.requests =
            w'.layer.requests ++ requests' ∧
          requests.map (·.sql) = requests'.map (·.sql) := by
  have start (target target' : String) : (new target).SameWording (new target') := ⟨rfl, rfl, rfl⟩
  refine ⟨fun s s' opening clauses clauses' t left t' left' => Statement.sameWording_written, ?_, ?_⟩
  · intro layer layer' target target' w w' ok ok'
    refine ⟨fun n => ?_, ?_⟩
    · exact (Use.sameWording_performAll (List.forall₂_take n alike) (settled_new target) (settled_new target')
        (start target target') rfl (ok.take n) (ok'.take n)).1
    · obtain ⟨_, events, events', _, _, trace, asks, trace', asks', same⟩ :=
        Use.sameWording_performAll alike (settled_new target) (settled_new target') (start target target') rfl
          ok ok'
      exact ⟨events, events', trace, trace', sameWording_handedOver asks asks' same⟩
  · intro server server' target target' w w' ok ok'
    obtain ⟨_, _, _, calls, calls', trace, asks, trace', asks', same⟩ :=
      Use.sameWording_performAll alike (settled_new target) (settled_new target') (start target target') rfl
        ok ok'
    refine ⟨_, _, requests_performAll trace asks, requests_performAll trace' asks', ?_⟩
    rw [List.map_flatMap, List.map_flatMap]
    exact flatMap_eq_of_forall₂ same fun h => sql_requestsOf h

/-- A server that lets everything pass. -/
def SqlServer.Server.willing : Server Unit where
  login _ s := (.ok (), s)
  respond _ s := (.reply {}, s)

theorem Session.performAll_hides_values_injected :
    let uses (value : Value) : List (Use Unit) :=
      [.begin,
        .write (.update "T") [.updateSet (Parameters.empty.bind "a" value),
          .filter "b = @b OR @a IS NULL" (Parameters.empty.bind "b" value)] (some .execute),
        .write (.procedure "dbo.P") [.withParameter "x" value, .withOutputs [.new "y" .int32]] (some .callExecute),
        .query "SELECT @z, @z" (Parameters.empty.bind "z" value) .rows, .commit]
    let hostile := Value.text "1; DROP TABLE T --"
    List.Forall₂ Use.Alike (uses (.int 1)) (uses hostile) ∧
      Use.AllSucceed (layer Server.willing.recorded) (.new "") (uses (.int 1)) ⟨⟨[], (), []⟩, 0, none, []⟩ ∧
      Use.AllSucceed (layer Server.willing.recorded) (.new "") (uses hostile) ⟨⟨[], (), []⟩, 0, none, []⟩ ∧
      (Use.performAll (layer Server.willing.recorded) (.new "") (uses hostile)
          ⟨⟨[], (), []⟩, 0, none, []⟩).2.layer.requests.map (·.sql) =
        ["BEGIN TRANSACTION", "UPDATE T SET a = @P1 WHERE b = @P2 OR @P1 IS NULL",
          "DECLARE @y INT = NULL;\nEXEC dbo.P @x = @P1, @y = @y OUTPUT;\n" ++
            "SELECT @@ROWCOUNT AS [__rowcount], @y AS [y];",
          "SELECT @P1, @P1", "COMMIT TRANSACTION"] := by
  intro uses hostile
  have names (name : String) (value value' : Value) :
      (Parameters.empty.bind name value).names = (Parameters.empty.bind name value').names := rfl
  have alike : List.Forall₂ Use.Alike (uses (.int 1)) (uses hostile) := by
    refine .cons (.same _) (.cons (.write _ ?_ _) (.cons (.write _ ?_ _) (.cons ?_ (.cons (.same _) .nil))))
    · exact .cons (.updateSet (names _ _ _)) (.cons (.filter _ (names _ _ _)) .nil)
    · exact .cons (.withParameter _ _ _) (.cons (.same _) .nil)
    · exact .query _ (names _ _ _) _
  have ok : Use.AllSucceed (layer Server.willing.recorded) (.new "") (uses (.int 1)) ⟨⟨[], (), []⟩, 0, none, []⟩ :=
    ⟨by decide +kernel, by decide +kernel, by decide +kernel, by decide +kernel, by decide +kernel, trivial⟩
  have ok' : Use.AllSucceed (layer Server.willing.recorded) (.new "") (uses hostile) ⟨⟨[], (), []⟩, 0, none, []⟩ :=
    ⟨by decide +kernel, by decide +kernel, by decide +kernel, by decide +kernel, by decide +kernel, trivial⟩
  obtain ⟨_, _, served⟩ := @performAll_hides_values Unit Unit Unit Unit Unit _ _ alike
  obtain ⟨requests, requests', sent, sent', same⟩ := served Server.willing Server.willing "" "" _ _ ok ok'
  refine .intro alike (.intro ok (.intro ok' ?_))
  rw [sent', List.map_append, ← same, ← List.map_append, ← sent]
  decide +kernel

end TypedSql
