import TypedSql.Proofs.Binding
import TypedSql.Proofs.Outputs
import TypedSql.Proofs.Session.Answers
import TypedSql.Proofs.SqlServer.BatchText
import TypedSql.Proofs.SqlServer.Reach

namespace TypedSql

open SqlServer

namespace SqlServer

variable {τ α : Type} {server : Server τ} {s : Session} {state : τ} {w : World (State τ)}

variable {handle : Handle} {sent : Request} {reply : Reply} {names : List String} {values : List Value}
  {cells : List Cell} {results : List ResultSet} {command : Command}

theorem State.request_of_reply {layered : State τ} (opened : layered.isOpen handle = true)
    (answered : (server.respond sent layered.server).1 = .reply reply) (timeout : Option Nat) :
    (layered.request server handle timeout sent).1 = (Response.reply reply).reply? := by
  unfold request
  rw [if_pos opened]
  cases responded : server.respond sent layered.server with
  | mk response last =>
    rw [responded] at answered
    simp only at answered
    subst answered
    rfl

/-- What a session that asks for a count is answered is what the command makes of the reply. -/
theorem Reaches.execute_reply (reaches : Reaches server s w state)
    (answered : (server.respond (.ofCommand command true) state).1 = .reply reply) :
    (s.dispatch (layer server) (.execute command) w).1 =
      (Response.reply reply).reply?.bind (executeOutcome command) := by
  obtain ⟨handle, layered, opened, rfl, dispatched, -⟩ := reaches.dispatch (.execute command)
  have ran : ((layer server).answer handle (.execute command) layered).1 =
      (layered.request server handle command.timeout (.ofCommand command true)).1.bind (executeOutcome command) :=
    rfl
  rw [dispatched, ran, State.request_of_reply opened answered]

theorem Reaches.query_reply (reaches : Reaches server s w state)
    (answered : (server.respond (.ofCommand command false) state).1 = .reply reply) :
    (s.dispatch (layer server) (.query command) w).1 =
      (Response.reply reply).reply?.bind (queryOutcome command) := by
  obtain ⟨handle, layered, opened, rfl, dispatched, -⟩ := reaches.dispatch (.query command)
  have ran : ((layer server).answer handle (.query command) layered).1 =
      (layered.request server handle command.timeout (.ofCommand command false)).1.bind (queryOutcome command) :=
    rfl
  rw [dispatched, ran, State.request_of_reply opened answered]

/-- A set of one row. -/
def rowSet (names : List String) (values : List Value) : ResultSet :=
  (ResultSet.empty.setColumns names).addRow values

theorem convertSet_singleton (h : cells.mapM Cell.toValue = .ok values) :
    Reply.convertSet ⟨names, [cells]⟩ = .ok (rowSet names values) := by
  simp [Reply.convertSet, h, rowSet, Except.map, bind, Except.bind, pure, Except.pure]

theorem resultSets_concat {sets : List CellSet} (h : sets.mapM Reply.convertSet = .ok results)
    (h' : cells.mapM Cell.toValue = .ok values) (affected : List Nat) (error? : Option ServerError) :
    Reply.resultSets ⟨sets ++ [⟨names, [cells]⟩], affected, error?⟩ = .ok (results ++ [rowSet names values]) := by
  simp [Reply.resultSets, List.mapM_append, h, convertSet_singleton h', bind, Except.bind, pure, Except.pure]

/-- The values of a row under the marked names of its columns. -/
def reported (names : List String) (values : List Value) : List (String × Value) :=
  Entries.putAll [] ((names.zip values).map fun (name, value) => (Name.marked name, value))

theorem readBack_concat (results : List ResultSet) (names : List String) (values : List Value) :
    readBack (results ++ [rowSet names values]) = reported names values := by
  simp [readBack, reported, rowSet, ResultSet.setColumns, ResultSet.addRow, ResultSet.empty, ResultSet.first?,
    Row.pairs, Row.columns, Header.ofNames]

/-- The server answers a batch: with some sets of rows, then with one row that has a value for every
column that the last line of the batch selects, under the name that it has there. -/
def Answers (server : Server τ) (state : τ) (sent : Request) (results : List ResultSet)
    (values : List Value) : Prop :=
  ∃ sets cells affected,
    (server.respond sent state).1 = .reply ⟨sets ++ [⟨aliasesIn sent.sql, [cells]⟩], affected, none⟩ ∧
      sets.mapM Reply.convertSet = .ok results ∧ cells.mapM Cell.toValue = .ok values

theorem Answers.execute (answers : Answers server state (.ofCommand command true) results values)
    (reaches : Reaches server s w state) (back : readsBack command = true) :
    let named := reported (aliasesIn (commandText command true)) values
    (s.dispatch (layer server) (.execute command) w).1 =
      .ok ⟨countOf (Entries.find? (Name.marked rowCountColumn) named),
        Entries.erase (Name.marked rowCountColumn) named⟩ := by
  obtain ⟨sets, cells, affected, answered, converted, valued⟩ := answers
  rw [reaches.execute_reply answered]
  simp only [Response.reply?, Except.bind, executeOutcome, if_pos back,
    resultSets_concat converted valued, Except.map, readBack_concat]
  rfl

theorem Answers.query (answers : Answers server state (.ofCommand command false) results values)
    (reaches : Reaches server s w state) (back : readsBack command = true) :
    (s.dispatch (layer server) (.query command) w).1 =
      .ok ⟨results.head?.getD .empty, reported (aliasesIn (commandText command false)) values⟩ := by
  obtain ⟨sets, cells, affected, answered, converted, valued⟩ := answers
  rw [reaches.query_reply answered]
  simp only [Response.reply?, Except.bind, queryOutcome, if_pos back,
    resultSets_concat converted valued, Except.map, readBack_concat, List.dropLast_concat]
  rfl

/-- A name that is stored without its marker. -/
structure IsBare (name : String) : Prop where
  marked_eq : Name.marked name = "@" ++ name
  bare_eq : Name.bare name = name

theorem isBare_of_head? {name : String} (h : name.toList.head? ≠ some '@') : IsBare name := by
  have other : ∀ rest, name.toList ≠ '@' :: rest := by
    intro rest chars
    rw [chars] at h
    exact h rfl
  refine ⟨?_, ?_⟩
  · unfold Name.marked
    split
    next rest chars => exact absurd chars (other rest)
    next => rfl
  · unfold Name.bare
    split
    next rest chars => exact absurd chars (other rest)
    next => rfl

theorem IsBare.marked_inj {name name' : String} (h : IsBare name) (h' : IsBare name')
    (same : Name.marked name = Name.marked name') : name = name' := by
  rw [h.marked_eq, h'.marked_eq] at same
  have chars := congrArg String.toList same
  simp only [String.toList_append] at chars
  exact String.toList_inj.mp (List.append_cancel_left chars)

theorem nodup_marked {names : List String} (bare : ∀ name ∈ names, IsBare name) (distinct : names.Nodup) :
    (names.map Name.marked).Nodup := by
  rw [List.Nodup, List.pairwise_map]
  refine List.Pairwise.imp_of_mem ?_ distinct
  intro name name' mem mem' different same
  exact different ((bare name mem).marked_inj (bare name' mem') same)

theorem find?_reported (bare : ∀ name ∈ names, IsBare name) (distinct : names.Nodup)
    (length : values.length = names.length) {pair : String × Value} (mem : pair ∈ names.zip values) :
    Entries.find? (Name.marked pair.1) (reported names values) = some pair.2 := by
  have marked : ((names.zip values).map fun (name, value) => (Name.marked name, value)).map (·.1) =
      names.map Name.marked := by
    conv => rhs; rw [← List.map_fst_zip (Nat.le_of_eq length.symm)]
    rw [List.map_map, List.map_map]
    rfl
  apply Entries.find?_putAll_of_mem
  · rw [marked]
    exact nodup_marked bare distinct
  · exact List.mem_map_of_mem mem

end SqlServer

variable {τ α : Type} {t : Statement} {call : ProcedureCall} {server : Server τ} {state : τ}
  {w : World (State τ)} {results : List ResultSet} {values : List Value}

/-- The names of the outputs of a call can be told apart and are stored without their markers. -/
structure ProcedureCall.Distinguished (call : ProcedureCall) : Prop where
  present : call.outputs ≠ []
  identifier : ∀ output ∈ call.outputs, Name.IsIdentifier output.name
  unmarked : ∀ output ∈ call.outputs, output.name.toList.head? ≠ some '@'
  distinct : (call.outputs.map (·.name)).Nodup

namespace ProcedureCall.Distinguished

theorem isBare (h : call.Distinguished) : ∀ name ∈ call.outputs.map (·.name), IsBare name := by
  intro name mem
  obtain ⟨output, there, rfl⟩ := List.mem_map.mp mem
  exact isBare_of_head? (h.unmarked output there)

theorem nodup_variableName (h : call.Distinguished) : (call.outputs.map (·.variableName)).Nodup := by
  have marked := nodup_marked h.isBare h.distinct
  rwa [List.map_map] at marked

theorem aliasesIn_commandText (h : call.Distinguished) (timeout : Option Nat) (countRows : Bool) :
    aliasesIn (commandText (call.command timeout) countRows) =
      (if countRows then [rowCountColumn] else []) ++ call.outputs.map (·.name) := by
  have batch : commandText (call.command timeout) countRows =
      outputBatch call.name call.parameters call.outputs countRows := by
    simp [commandText, ProcedureCall.command, h.present]
  rw [batch, aliasesIn_outputBatch h.identifier _ _ h.present]
  congr 1
  apply List.map_congr_left
  intro output mem
  exact (isBare_of_head? (h.unmarked output mem)).bare_eq

theorem mem_zip_names {pair : OutputParameter × Value} (mem : pair ∈ call.outputs.zip values) :
    (pair.1.name, pair.2) ∈ (call.outputs.map (·.name)).zip values := by
  rw [List.zip_map_left]
  exact List.mem_map_of_mem mem

/-- The outputs are read from a row that has exactly their values. -/
theorem readOutputs_query (h : call.Distinguished) (length : values.length = call.outputs.length) :
    readOutputs call.outputs (reported (call.outputs.map (·.name)) values) =
      (call.outputs.map (·.name)).zip values := by
  refine readOutputs_eq_zip h.nodup_variableName (fun pair mem => ?_) length
  have found := find?_reported h.isBare h.distinct (by simpa using length) (mem_zip_names mem)
  exact found

/-- The row of a call that counts rows has the count in front. -/
theorem readOutputs_execute (h : call.Distinguished) (length : values.length = call.outputs.length)
    (apart : rowCountColumn ∉ call.outputs.map (·.name)) (count : Int64) :
    let named := reported (rowCountColumn :: call.outputs.map (·.name)) (.int count :: values)
    countOf (Entries.find? (Name.marked rowCountColumn) named) = count.toInt.toNat ∧
      readOutputs call.outputs (Entries.erase (Name.marked rowCountColumn) named) =
        (call.outputs.map (·.name)).zip values := by
  intro named
  have bare : ∀ name ∈ rowCountColumn :: call.outputs.map (·.name), IsBare name := by
    intro name mem
    rcases List.mem_cons.mp mem with rfl | mem
    · exact isBare_of_head? (by decide)
    · exact h.isBare name mem
  have distinct : (rowCountColumn :: call.outputs.map (·.name)).Nodup := List.nodup_cons.mpr ⟨apart, h.distinct⟩
  have found : ∀ pair ∈ (rowCountColumn :: call.outputs.map (·.name)).zip (.int count :: values),
      Entries.find? (Name.marked pair.1) named = some pair.2 := fun pair mem =>
    find?_reported bare distinct (by simpa using length) mem
  refine ⟨?_, ?_⟩
  · have counted := found (rowCountColumn, .int count) List.mem_cons_self
    simp only at counted
    rw [counted]
    rfl
  · refine readOutputs_eq_zip h.nodup_variableName (fun pair mem => ?_) length
    have there : pair.1.name ∈ call.outputs.map (·.name) := List.mem_map_of_mem (List.of_mem_zip mem).1
    have other : pair.1.variableName ≠ Name.marked rowCountColumn := by
      intro same
      have name := (h.isBare _ there).marked_inj (bare _ List.mem_cons_self) same
      exact apart (name ▸ there)
    rw [Entries.find?_erase_of_ne other]
    exact found (pair.1.name, pair.2) (List.mem_cons_of_mem _ (mem_zip_names mem))

/-- An output called like the column of the row count is taken for it. -/
theorem readOutputs_execute_ne (length : values.length = call.outputs.length)
    (clash : rowCountColumn ∈ call.outputs.map (·.name)) (named : List (String × Value)) :
    readOutputs call.outputs (Entries.erase (Name.marked rowCountColumn) named) ≠
      (call.outputs.map (·.name)).zip values := by
  intro same
  have names : ((call.outputs.map (·.name)).zip values).map (·.1) = call.outputs.map (·.name) :=
    List.map_fst_zip (by simp [length])
  rw [← names, ← same] at clash
  obtain ⟨entry, mem, name⟩ := List.mem_map.mp clash
  have found := find?_of_mem_readOutputs mem
  rw [name, Entries.find?_erase_self] at found
  simp at found

end ProcedureCall.Distinguished

/-- Where the server answers the batch of a call with one row that has the values of the outputs, under
the names that the batch selects them by, the caller gets each value under the name of its output. A query
gets the rows of the procedure with them, a call that counts rows the count, which is the first value of
that row; it loses an output only if one is called like the column of the count. -/
theorem Statement.call_returns (held : t.session.procedure? = some call) (names : call.Distinguished)
    (reaches : Reaches server t.session w state) (length : values.length = call.outputs.length) :
    let command := call.command (t.session.timeout? <|> w.timeout?)
    let outputs := (call.outputs.map (·.name)).zip values
    (∀ count : Int64, Answers server state (.ofCommand command true) results (.int count :: values) →
        ((t.finish (layer server) (.callExecute : Terminal α) w).1 =
            .ok ⟨.count count.toInt.toNat, outputs⟩ ↔
          rowCountColumn ∉ call.outputs.map (·.name))) ∧
      ∀ take : Session.Take α, Answers server state (.ofCommand command false) results values →
        (t.finish (layer server) (.callQuery take) w).1 =
          (take.apply (results.head?.getD .empty)).map fun taken => ⟨.taken taken, outputs⟩ := by
  intro command outputs
  have comes : t.session.command (t.session.timeout? <|> w.timeout?) .procedure = .ok command := by
    simp only [Session.command, held, command]
  have declared : t.session.declared .procedure = call.outputs := by
    simp only [Session.declared, held, Option.map_some, Option.getD_some]
  have back : readsBack command = true := by
    simp [readsBack, command, ProcedureCall.command, names.present]
  refine ⟨fun count answers => ?_, fun take answers => ?_⟩
  · have finished : (t.finish (layer server) (.callExecute : Terminal α) w).1 =
        (t.session.execute (layer server) .procedure w).1.map fun r => ⟨.count r.value, r.outputs⟩ := rfl
    rw [finished, t.session.execute_answer comes, declared, answers.execute reaches back,
      names.aliasesIn_commandText]
    simp only [Except.map, Except.ok.injEq, Session.Returned.mk.injEq, Result.count.injEq, if_true,
      List.singleton_append]
    constructor
    · intro ⟨_, kept⟩ clash
      exact ProcedureCall.Distinguished.readOutputs_execute_ne length clash _ kept
    · exact fun apart => names.readOutputs_execute length apart count
  · have finished : (t.finish (layer server) (.callQuery take) w).1 =
        (t.session.fetch (layer server) .procedure take w).1.map fun r => ⟨.taken r.value, r.outputs⟩ := rfl
    have rows : (t.session.queryRows (layer server) .procedure w).1 =
        .ok ⟨results.head?.getD .empty, outputs⟩ := by
      rw [t.session.queryRows_answer comes, declared, answers.query reaches back, names.aliasesIn_commandText]
      simp only [Except.map, Bool.false_eq_true, if_false, List.nil_append, names.readOutputs_query length]
      rfl
    rw [finished, Session.fetch, Action.bind_apply, rows]
    simp only [Action.pure_apply]
    cases take.apply (results.head?.getD .empty) <;> rfl

/-- A server that admits everyone and always says the same. -/
def SqlServer.Server.replying (reply : Reply) : Server Unit :=
  ⟨fun _ s => (.ok (), s), fun _ s => (.reply reply, s)⟩

theorem SqlServer.Server.replying_answers (sets : List CellSet) (names : List String) (cells : List Cell)
    {sent : Request} (selected : aliasesIn sent.sql = names)
    (converted : sets.mapM Reply.convertSet = .ok results) (valued : cells.mapM Cell.toValue = .ok values) :
    Answers (.replying ⟨sets ++ [⟨names, [cells]⟩], [], none⟩) () sent results values := by
  subst selected
  exact ⟨sets, cells, [], rfl, converted, valued⟩

/-- A session that calls a procedure in its transaction, over the first connection. -/
def Session.calling (call : ProcedureCall) : Session :=
  { target := "", procedure? := some call, connection? := some 1, inTransaction := true }

/-- The surroundings in which the first connection is open. -/
def SqlServer.State.connected : World (State Unit) := ⟨⟨[(1, ⟨default, true⟩)], ()⟩, 1, none, []⟩

theorem Session.calling_reaches (call : ProcedureCall) (reply : Reply) :
    Reaches (.replying reply) (.calling call) State.connected () := .inside rfl rfl

theorem Statement.call_returns_outputs :
    let call : ProcedureCall :=
      { name := "dbo.CreateUser", outputs := [.new "id" .int32, .withSize "@message" .string 50] }
    let t : Statement := ⟨.storedProcedureOutput, .calling call⟩
    let row : List Cell := [.integer 7, .text "welcome"]
    call.Distinguished ∧
      (t.finish (layer (.replying ⟨[⟨["__rowcount", "id", "message"], [.integer 3 :: row]⟩], [], none⟩))
          (.callExecute : Terminal Unit) State.connected).1 =
        .ok ⟨.count 3, [("id", .int 7), ("message", .text "welcome")]⟩ ∧
      (t.finish (layer (.replying ⟨[⟨["n"], []⟩, ⟨["id", "message"], [row]⟩], [], none⟩))
          (.callQuery .firstRow : Terminal Unit) State.connected).1 =
        .ok ⟨.taken (.row none), [("id", .int 7), ("message", .text "welcome")]⟩ := by
  intro call t row
  have names : call.Distinguished := ⟨by decide, by decide, by decide, by decide⟩
  have counted : Answers (.replying ⟨[⟨["__rowcount", "id", "message"], [.integer 3 :: row]⟩], [], none⟩) ()
      (.ofCommand (call.command none) true) [] (.int 3 :: [.int 7, .text "welcome"]) :=
    Server.replying_answers [] _ _ (names.aliasesIn_commandText none true) rfl rfl
  have selected : Answers (.replying ⟨[⟨["n"], []⟩, ⟨["id", "message"], [row]⟩], [], none⟩) ()
      (.ofCommand (call.command none) false) [.empty] [.int 7, .text "welcome"] :=
    Server.replying_answers [⟨["n"], []⟩] _ _ (names.aliasesIn_commandText none false) rfl rfl
  refine ⟨names, ?_, ?_⟩
  · exact ((call_returns rfl names (Session.calling_reaches call _) rfl).1 3 counted).mpr (by decide)
  · exact (call_returns rfl names (Session.calling_reaches call _) rfl).2 .firstRow selected

/-- A call that counts rows takes an output called like the column of the count for the count. -/
theorem Statement.call_loses_output :
    let call : ProcedureCall := { name := "dbo.CountRows", outputs := [.new "__rowcount" .int32] }
    let t : Statement := ⟨.storedProcedureOutput, .calling call⟩
    let server : Server Unit :=
      .replying ⟨[⟨["__rowcount", "__rowcount"], [[.integer 1, .integer 5]]⟩], [], none⟩
    call.Distinguished ∧ Reaches server t.session State.connected () ∧
      Answers server () (.ofCommand (call.command none) true) [] (.int 1 :: [.int 5]) ∧
      (t.finish (layer server) (.callExecute : Terminal Unit) State.connected).1 = .ok ⟨.count 5, []⟩ := by
  intro call t server
  have names : call.Distinguished := ⟨by decide, by decide, by decide, by decide⟩
  refine ⟨names, Session.calling_reaches call _, ?_, rfl⟩
  exact Server.replying_answers [] _ _ (names.aliasesIn_commandText none true) rfl rfl

end TypedSql
