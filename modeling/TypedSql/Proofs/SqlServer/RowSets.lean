import TypedSql.Proofs.SqlServer.ReadBack
import TypedSql.Proofs.Traversal

namespace TypedSql

theorem exists_of_forall₂_of_mem {β γ : Type} {R : β → γ → Prop} {xs : List β} {ys : List γ} {x : β}
    (h : List.Forall₂ R xs ys) (mem : x ∈ xs) : ∃ y ∈ ys, R x y := by
  induction h with
  | nil => cases mem
  | @cons x' y _ _ related _ ih =>
    rcases List.mem_cons.mp mem with rfl | mem
    · exact ⟨y, List.mem_cons_self, related⟩
    · obtain ⟨y', there, related'⟩ := ih mem
      exact ⟨y', List.mem_cons_of_mem _ there, related'⟩

theorem exists_of_forall₂_of_mem_zip {α β γ : Type} {R : β → γ → Prop} {xs : List β} {ys : List γ}
    {names : List α} {name : α} {y : γ} (h : List.Forall₂ R xs ys) (mem : (name, y) ∈ names.zip ys) :
    ∃ x, (name, x) ∈ names.zip xs ∧ R x y := by
  induction h generalizing names with
  | nil => simp at mem
  | @cons x y' _ _ related _ ih =>
    cases names with
    | nil => simp at mem
    | cons first names =>
      rw [List.zip_cons_cons] at mem
      rcases List.mem_cons.mp mem with same | mem
      · cases same
        exact ⟨x, List.mem_cons_self, related⟩
      · obtain ⟨x', there, related'⟩ := ih mem
        exact ⟨x', List.mem_cons_of_mem _ there, related'⟩

namespace SqlServer

/-- The row that cells are read into: a value for each of them, in their order, under the columns of the
set that they belong to. -/
structure CellSet.Reads (set : CellSet) (cells : List Cell) (row : Row) : Prop where
  header_eq : row.header = Header.ofNames set.columns
  values : List.Forall₂ (fun cell value => cell.toValue = .ok value) cells row.values

/-- Every cell of a set has a value. -/
def CellSet.Valued (set : CellSet) : Prop :=
  ∀ cells ∈ set.rows, ∀ cell ∈ cells, ∃ value, cell.toValue = .ok value

/-- The cells of the first row of a set; a set without rows has none. -/
def CellSet.firstRow (set : CellSet) : List Cell := set.rows.headD []

variable {set back : CellSet} {sets : List CellSet} {result last : ResultSet} {results : List ResultSet}
  {cells : List Cell} {values : List Value} {row : Row} {failure : Failure} {affected : List Nat}

theorem CellSet.Reads.columns_eq (h : set.Reads cells row) : row.columns = set.columns := by
  rw [Row.columns, h.header_eq]
  rfl

theorem CellSet.Reads.length_eq (h : set.Reads cells row) : row.values.length = cells.length :=
  h.values.length_eq.symm

theorem rows_foldl_addRow (rows : List (List Value)) {result : ResultSet} {header : Header}
    (named : result.header? = some header) :
    (rows.foldl ResultSet.addRow result).rows = result.rows ++ rows.map (⟨header, ·⟩) := by
  induction rows generalizing result with
  | nil => simp
  | cons values rest ih =>
    have added : result.addRow values = { result with
        rows := result.rows ++ [⟨header, values⟩], rowsAffected := result.rowsAffected + 1 } := by
      simp only [ResultSet.addRow, named]
    have later : (result.addRow values).header? = some header := by rw [added, named]
    rw [List.foldl_cons, ih later, added, List.map_cons, List.append_assoc, List.singleton_append]

/-- A set that is converted has the rows that its cells are read into. -/
theorem reads_of_convertSet (h : Reply.convertSet set = .ok result) :
    List.Forall₂ set.Reads set.rows result.rows := by
  unfold Reply.convertSet at h
  split at h
  next empty =>
    cases h
    rw [List.isEmpty_iff.mp empty]
    exact .nil
  next =>
    cases converted : set.rows.mapM (List.mapM Cell.toValue) with
    | error failure => rw [converted] at h; cases h
    | ok rows =>
      rw [converted] at h
      cases h
      have named : (ResultSet.empty.setColumns set.columns).header? = some (Header.ofNames set.columns) := rfl
      rw [rows_foldl_addRow rows named]
      have read : List.Forall₂ set.Reads set.rows (rows.map (⟨Header.ofNames set.columns, ·⟩)) := by
        rw [List.forall₂_map_right_iff]
        exact (mapM_eq_ok_iff.mp converted).imp fun cells values valued =>
          ⟨rfl, mapM_eq_ok_iff.mp valued⟩
      exact read

theorem exists_cell_of_convertSet (h : Reply.convertSet set = .error failure) :
    ∃ cells ∈ set.rows, ∃ cell ∈ cells, cell.toValue = .error failure := by
  unfold Reply.convertSet at h
  split at h
  next => cases h
  next =>
    cases converted : set.rows.mapM (List.mapM Cell.toValue) with
    | ok rows => rw [converted] at h; cases h
    | error failure' =>
      rw [converted] at h
      cases h
      obtain ⟨cells, mem, unread⟩ := exists_of_mapM_eq_error converted
      exact ⟨cells, mem, exists_of_mapM_eq_error unread⟩

theorem valued_of_convertSet (h : Reply.convertSet set = .ok result) : set.Valued := by
  intro cells mem cell there
  obtain ⟨row, _, reads⟩ := exists_of_forall₂_of_mem (reads_of_convertSet h) mem
  obtain ⟨value, _, valued⟩ := exists_of_forall₂_of_mem reads.values there
  exact ⟨value, valued⟩

theorem Reply.exists_cell_of_resultSets {reply : Reply} (h : reply.resultSets = .error failure) :
    ∃ set ∈ reply.sets, ∃ cells ∈ set.rows, ∃ cell ∈ cells, cell.toValue = .error failure := by
  obtain ⟨set, mem, unconverted⟩ := exists_of_mapM_eq_error h
  exact ⟨set, mem, exists_cell_of_convertSet unconverted⟩

theorem Reply.valued_of_resultSets {reply : Reply} (h : reply.resultSets = .ok results) :
    ∀ set ∈ reply.sets, set.Valued := by
  intro set mem
  obtain ⟨result, _, converted⟩ := exists_of_forall₂_of_mem (mapM_eq_ok_iff.mp h) mem
  exact valued_of_convertSet converted

theorem resultSets_append_singleton
    (h : Reply.resultSets ⟨sets ++ [back], affected, none⟩ = .ok results) :
    ∃ before last, results = before ++ [last] ∧
      List.Forall₂ (fun set result => Reply.convertSet set = .ok result) sets before ∧
      Reply.convertSet back = .ok last := by
  unfold Reply.resultSets at h
  rw [List.mapM_append] at h
  cases converted : sets.mapM Reply.convertSet with
  | error failure => rw [converted] at h; cases h
  | ok before =>
    cases handed : Reply.convertSet back with
    | error failure => simp [converted, handed, bind, Except.bind] at h
    | ok last =>
      simp only [converted, handed, List.mapM_cons, List.mapM_nil, bind, Except.bind, pure, Except.pure,
        Except.ok.injEq] at h
      exact ⟨before, last, h.symm, mapM_eq_ok_iff.mp converted, rfl⟩

/-- What is read back is the first row of the last set. -/
theorem readBack_of_convertSet (h : Reply.convertSet back = .ok last) (before : List ResultSet) :
    ∃ values, List.Forall₂ (fun cell value => cell.toValue = .ok value) back.firstRow values ∧
      readBack (before ++ [last]) = reported back.columns values := by
  have reads := reads_of_convertSet h
  unfold CellSet.firstRow readBack ResultSet.first?
  rw [List.getLast?_concat, Option.bind_some]
  generalize back.rows = cellRows, last.rows = rows at reads
  cases reads with
  | nil => exact ⟨[], .nil, by simp [reported, Entries.putAll]⟩
  | @cons cells row _ _ first _ =>
    refine ⟨row.values, first.values, ?_⟩
    simp only [List.head?_cons, Row.pairs, first.columns_eq]
    rfl

/-- A value that is reported comes from the cell of a column that has its name. -/
theorem exists_cell_of_find?_reported {columns : List String} {name : String} {value : Value}
    (valued : List.Forall₂ (fun cell value => cell.toValue = .ok value) cells values)
    (found : Entries.find? name (reported columns values) = some value) :
    ∃ column cell, (column, cell) ∈ columns.zip cells ∧ Name.marked column = name ∧
      cell.toValue = .ok value := by
  rcases Entries.mem_putAll (Entries.mem_of_find? found) with mem | mem
  · obtain ⟨⟨column, value'⟩, there, same⟩ := List.mem_map.mp mem
    cases same
    obtain ⟨cell, mem, read⟩ := exists_of_forall₂_of_mem_zip valued there
    exact ⟨column, cell, mem, rfl, read⟩
  · cases mem

/-- What a query of a call returns, where the procedure gave some sets and the server then handed the
declared outputs back: the rows are those of the first set, if there is one, and the outputs are read from
the set that came last, whatever the columns of the others are called. -/
structure KeepsApart (declared : List OutputParameter) (sets : List CellSet) (back : CellSet)
    (result : ResultSet) (outputs : List (String × Value)) : Prop where
  no_set : sets = [] → result.rows = []
  first_set : ∀ first ∈ sets.head?, List.Forall₂ first.Reads first.rows result.rows
  /-- Each row has a value for each column, if its set had a cell for each. -/
  width : ∀ first ∈ sets.head?, (∀ cells ∈ first.rows, cells.length = first.columns.length) →
    ∀ row ∈ result.rows, row.columns = first.columns ∧ row.values.length = first.columns.length
  handed_back : ∃ values, List.Forall₂ (fun cell value => cell.toValue = .ok value) back.firstRow values ∧
    outputs = readOutputs declared (reported back.columns values)
  origin : ∀ entry ∈ outputs, ∃ column cell, (column, cell) ∈ back.columns.zip back.firstRow ∧
    Name.marked column = Name.marked entry.1 ∧ cell.toValue = .ok entry.2

theorem CellSet.width_of_reads (read : List.Forall₂ set.Reads set.rows result.rows)
    (wide : ∀ cells ∈ set.rows, cells.length = set.columns.length) (mem : row ∈ result.rows) :
    row.columns = set.columns ∧ row.values.length = set.columns.length := by
  obtain ⟨cells, there, reads⟩ := exists_of_forall₂_of_mem read.flip mem
  exact ⟨reads.columns_eq, reads.length_eq.trans (wide cells there)⟩

theorem keepsApart_of_convertSet {declared : List OutputParameter} {before : List ResultSet}
    (converted : List.Forall₂ (fun set result => Reply.convertSet set = .ok result) sets before)
    (handed : Reply.convertSet back = .ok last) :
    KeepsApart declared sets back (before.head?.getD .empty)
      (readOutputs declared (readBack (before ++ [last]))) := by
  obtain ⟨values, valued, read⟩ := readBack_of_convertSet handed before
  rw [read]
  have first_set : ∀ first ∈ sets.head?,
      List.Forall₂ first.Reads first.rows (before.head?.getD .empty).rows := by
    intro first mem
    cases converted with
    | nil => cases mem
    | cons converted _ =>
      cases mem
      exact reads_of_convertSet converted
  constructor
  case no_set =>
    rintro rfl
    cases converted
    rfl
  case first_set => exact first_set
  case width => exact fun first mem wide row => CellSet.width_of_reads (first_set first mem) wide
  case handed_back => exact ⟨values, valued, rfl⟩
  case origin =>
    intro entry mem
    obtain ⟨output, _, name, found⟩ := exists_of_mem_readOutputs mem
    rw [← name]
    exact exists_cell_of_find?_reported valued found

end SqlServer

open SqlServer

variable {τ α : Type} {t : Statement} {call : ProcedureCall} {server : Server τ} {state : τ}
  {w : World (State τ)} {sets : List CellSet} {back : CellSet} {affected : List Nat}

/-- A query of a call with outputs keeps rows and outputs apart, however many sets the procedure gives before
the one that the outputs are in. If a cell of any of them has no value, the whole call fails. -/
theorem Statement.call_keeps_apart (held : t.session.procedure? = some call) (present : call.outputs ≠ [])
    (reaches : Reaches server t.session w state)
    (answered : (server.respond (.ofCommand (call.command (t.session.timeout? <|> w.timeout?)) false) state).1 =
      .reply ⟨sets ++ [back], affected, none⟩) :
    ((∀ set ∈ sets ++ [back], set.Valued) →
      ∃ result outputs, KeepsApart call.outputs sets back result outputs ∧
        ∀ take : Session.Take α, (t.finish (layer server) (.callQuery take) w).1 =
          (take.apply result).map fun taken => ⟨.taken taken, outputs⟩) ∧
    (∀ set ∈ sets ++ [back], ¬ set.Valued →
      ∃ failure, (∃ set ∈ sets ++ [back], ∃ cells ∈ set.rows, ∃ cell ∈ cells, cell.toValue = .error failure) ∧
        ∀ take : Session.Take α, (t.finish (layer server) (.callQuery take) w).1 = .error failure) := by
  have comes : t.session.command (t.session.timeout? <|> w.timeout?) .procedure =
      .ok (call.command (t.session.timeout? <|> w.timeout?)) := by
    simp only [Session.command, held]
  have declared : t.session.declared .procedure = call.outputs := by
    simp only [Session.declared, held, Option.map_some, Option.getD_some]
  have back? : readsBack (call.command (t.session.timeout? <|> w.timeout?)) = true := by
    simp [readsBack, ProcedureCall.command, present]
  have ran : ∀ take : Session.Take α, (t.finish (layer server) (.callQuery take) w).1 =
      (Reply.resultSets ⟨sets ++ [back], affected, none⟩).bind fun results =>
        (take.apply (results.dropLast.head?.getD .empty)).map fun taken =>
          ⟨.taken taken, readOutputs call.outputs (readBack results)⟩ := by
    intro take
    rw [callQuery_answer comes, reaches.query_reply answered, declared]
    simp only [Response.reply?, Except.bind, queryOutcome, if_pos back?]
    cases Reply.resultSets ⟨sets ++ [back], affected, none⟩ <;> rfl
  cases converted : Reply.resultSets ⟨sets ++ [back], affected, none⟩ with
  | error failure =>
    rw [converted] at ran
    obtain ⟨set, mem, cells, there, cell, within, unread⟩ := Reply.exists_cell_of_resultSets converted
    refine ⟨fun valued => ?_, fun _ _ _ => ⟨failure, ⟨set, mem, cells, there, cell, within, unread⟩, ran⟩⟩
    obtain ⟨value, read⟩ := valued set mem cells there cell within
    cases unread.symm.trans read
  | ok results =>
    rw [converted] at ran
    refine ⟨fun _ => ?_, fun set mem unvalued => absurd (Reply.valued_of_resultSets converted set mem) unvalued⟩
    obtain ⟨before, last, rfl, converted, handed⟩ := resultSets_append_singleton converted
    refine ⟨_, _, keepsApart_of_convertSet converted handed, fun take => ?_⟩
    rw [ran take]
    simp only [Except.bind, List.dropLast_concat]

/-- The procedure gives two sets, the columns of which are called like the output. -/
theorem Statement.call_keeps_apart_hostile_columns :
    let call : ProcedureCall := { name := "dbo.CreateUser", outputs := [.new "id" .int32] }
    let t : Statement := ⟨.storedProcedureOutput, .calling call⟩
    let sets : List CellSet :=
      [⟨["id", "@id"], [[.integer 1, .text "a"], [.null, .text "b"]]⟩, ⟨["id"], [[.integer 2]]⟩]
    let back : CellSet := ⟨["id"], [[.integer 7]]⟩
    let header := Header.ofNames ["id", "@id"]
    let rows : List Row := [⟨header, [.int 1, .text "a"]⟩, ⟨header, [.null, .text "b"]⟩]
    (t.finish (layer (.replying ⟨sets ++ [back], [], none⟩)) (.callQuery .rows : Terminal Unit)
        State.connected).1 = .ok ⟨.taken (.rows rows), [("id", .int 7)]⟩ ∧
      ∃ result, KeepsApart call.outputs sets back result [("id", .int 7)] ∧ result.rows = rows := by
  intro call t sets back header rows
  have ran : (t.finish (layer (.replying ⟨sets ++ [back], [], none⟩)) (.callQuery .rows : Terminal Unit)
      State.connected).1 = .ok ⟨.taken (.rows rows), [("id", .int 7)]⟩ := rfl
  have converted : (Reply.resultSets ⟨sets ++ [back], [], none⟩).isOk = true := rfl
  have valued : ∀ set ∈ sets ++ [back], set.Valued := by
    cases read : Reply.resultSets ⟨sets ++ [back], [], none⟩ with
    | error failure => rw [read] at converted; cases converted
    | ok results => exact Reply.valued_of_resultSets read
  have present : call.outputs ≠ [] := by simp [call]
  have held : t.session.procedure? = some call := rfl
  have reaches := Session.calling_reaches call ⟨sets ++ [back], [], none⟩
  obtain ⟨result, outputs, apart, returned⟩ :=
    (call_keeps_apart (t := t) held present reaches rfl).1 valued
  have same := (returned (.rows : Session.Take Unit)).symm.trans ran
  simp only [Session.Take.apply, Except.map, Except.ok.injEq, Session.Returned.mk.injEq, Result.taken.injEq,
    Session.Taken.rows.injEq] at same
  exact ⟨ran, result, same.2 ▸ apart, same.1⟩

end TypedSql
