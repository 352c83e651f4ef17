import TypedSql.Proofs.Placeholder.Listed
import TypedSql.Proofs.SqlServer.BatchNames
import TypedSql.Proofs.Statement.Refusal

namespace TypedSql

open Placeholder SqlServer

variable {α : Type} {s left : Session} {t : Statement} {pairs : List (String × Value)} {table rest : String}

/-- The columns that values are given for, and the names that the values are bound under. -/
def columnNames (pairs : List (String × Value)) : List String := pairs.map fun pair => Name.bare pair.1

def boundNames (pairs : List (String × Value)) : List String := pairs.map fun pair => Name.marked pair.1

/-- Values for columns: the names of the columns, with the marker or without, are words, and the server can
tell them apart. -/
structure Columns (pairs : List (String × Value)) : Prop where
  present : pairs ≠ []
  isWord : ∀ pair ∈ pairs, Name.IsWord (Name.bare pair.1)
  apart : (columnNames pairs).Pairwise Apart

/-- The text that puts value i into column i of new rows. -/
def insertText (table : String) (columns : List String) : String :=
  "INSERT INTO " ++ table ++ " (" ++ listed columns ++ ")  VALUES (" ++
    listed ((List.range columns.length).map fun i => positional (i + 1)) ++ ")"

/-- The text that sets column i to value i. -/
def updateText (table : String) (columns : List String) : String :=
  "UPDATE " ++ table ++ " SET " ++
    listed (columns.zipIdx.map fun (column, i) => column ++ " = " ++ positional (i + 1))

theorem findIdx?_of_apart {names : List String} (apart : names.Pairwise Apart) (extra : List String) {i : Nat}
    {name : String} (there : names[i]? = some name) :
    (names ++ extra).findIdx? (Name.sameIgnoringCase · name) = some i := by
  obtain ⟨bound, rfl⟩ := List.getElem?_eq_some_iff.mp there
  have inside : i < (names ++ extra).length := by
    rw [List.length_append]
    omega
  refine List.findIdx?_eq_some_iff_getElem.mpr ⟨inside, ?_, fun j before => ?_⟩
  · rw [List.getElem_append_left bound]
    exact Text.sameIgnoringCase_iff.mpr rfl
  · rw [List.getElem_append_left (Nat.lt_trans before bound)]
    have other : Apart names[j] names[i] := List.pairwise_iff_getElem.mp apart j i _ bound before
    exact Bool.eq_false_iff.mp other

namespace Columns

theorem apart_boundNames (h : Columns pairs) : (boundNames pairs).Pairwise Apart := by
  have apart := h.apart
  unfold columnNames at apart
  unfold boundNames
  rw [List.pairwise_map] at apart ⊢
  exact apart.imp fun other => (Name.sameIgnoringCase_marked _ _).trans other

theorem nodup_boundNames (h : Columns pairs) : (boundNames pairs).Nodup := by
  refine h.apart_boundNames.imp fun {name name'} other same => ?_
  subst same
  have itself : Name.sameIgnoringCase name name = true := Text.sameIgnoringCase_iff.mpr rfl
  exact Bool.eq_false_iff.mp other itself

theorem entries_eq (h : Columns pairs) :
    (Parameters.ofList pairs).entries = pairs.map fun pair => (Name.marked pair.1, pair.2) := by
  rw [Parameters.entries_ofList]
  apply Entries.putAll_nil
  rw [List.map_map]
  exact h.nodup_boundNames

theorem names_eq (h : Columns pairs) : (Parameters.ofList pairs).names = boundNames pairs := by
  rw [Parameters.names, h.entries_eq, List.map_map]
  rfl

/-- The place of a name among all that are bound is that of its column. -/
theorem findIdx?_names (h : Columns pairs) (extra : List String) {i : Nat} (inside : i < pairs.length) :
    ((Parameters.ofList pairs).names ++ extra).findIdx?
      (Name.sameIgnoringCase · ("@" ++ Name.bare pairs[i].1)) = some i := by
  rw [h.names_eq, ← Name.marked_eq]
  apply findIdx?_of_apart h.apart_boundNames
  simp [boundNames, inside]

theorem inert_bare (h : Columns pairs) {pair : String × Value} (mem : pair ∈ pairs) :
    Inert (Name.bare pair.1) :=
  inert_of_isWord (h.isWord pair mem)

theorem inert_marked (h : Columns pairs) {pair : String × Value} (mem : pair ∈ pairs) :
    Inert (Name.marked pair.1) := by
  rw [Name.marked_eq]
  exact Inert.append (by decide) (h.inert_bare mem)

theorem inert_names (h : Columns pairs) : ∀ name ∈ (Parameters.ofList pairs).names, Inert name := by
  rw [h.names_eq, boundNames, List.forall_mem_map]
  exact fun pair mem => h.inert_marked mem

theorem substitute_names (h : Columns pairs) (extra : List String) :
    substitute (listed (Parameters.ofList pairs).names) ((Parameters.ofList pairs).names ++ extra) =
      listed ((List.range pairs.length).map fun i => positional (i + 1)) := by
  unfold listed
  rw [substitute_intercalate fun name mem => (h.inert_names name mem).closed]
  congr 1
  generalize bound : (Parameters.ofList pairs).names ++ extra = names
  rw [h.names_eq, boundNames, List.map_map]
  apply List.ext_getElem
  · simp
  · intro i _ inside
    have place : i < pairs.length := by simpa using inside
    have word := h.isWord pairs[i] (List.getElem_mem place)
    simp only [List.getElem_map, List.getElem_range, Function.comp_apply, Name.marked_eq]
    exact substitute_marked word (bound ▸ h.findIdx?_names extra place)

/-- The assignment to a column, as it is written. -/
def assignment (pair : String × Value) : String := Name.bare pair.1 ++ " = " ++ ("@" ++ Name.bare pair.1)

theorem assignments_eq (h : Columns pairs) :
    (Parameters.ofList pairs).names.map (fun name => Name.bare name ++ " = " ++ name) =
      pairs.map assignment := by
  rw [h.names_eq, boundNames, List.map_map]
  apply List.map_congr_left
  intro pair _
  rw [Function.comp_apply, Name.bare_marked, Name.marked_eq]
  rfl

theorem inert_assignment (h : Columns pairs) : ∀ item ∈ pairs.map assignment, Inert item := by
  rw [List.forall_mem_map]
  intro pair mem
  have own := h.inert_bare mem
  exact (own.append (by decide)).append (Inert.append (by decide) own)

theorem substitute_assignments (h : Columns pairs) (extra : List String) :
    substitute (listed (pairs.map assignment)) ((Parameters.ofList pairs).names ++ extra) =
      listed ((columnNames pairs).zipIdx.map fun (column, i) => column ++ " = " ++ positional (i + 1)) := by
  unfold listed columnNames
  rw [substitute_intercalate fun item mem => (h.inert_assignment item mem).closed]
  congr 1
  rw [List.map_map]
  apply List.ext_getElem
  · simp
  · intro i place _
    have place : i < pairs.length := by simpa using place
    have word := h.isWord pairs[i] (List.getElem_mem place)
    simp only [List.getElem_map, List.getElem_zipIdx, Function.comp_apply, Nat.zero_add]
    exact substitute_assigned word (h.findIdx?_names extra place)

/-- The text between the table and the values of new rows. -/
def between (pairs : List (String × Value)) : String := " (" ++ listed (columnNames pairs) ++ ")  VALUES ("

theorem valuesText_eq (h : Columns pairs) :
    Clause.valuesText (Parameters.ofList pairs) =
      between pairs ++ (listed (Parameters.ofList pairs).names ++ ")") := by
  have columns : (Parameters.ofList pairs).names.map Name.bare = columnNames pairs := by
    rw [h.names_eq, boundNames, List.map_map]
    exact List.map_congr_left fun pair _ => Name.bare_marked pair.1
  have gap : ") " ++ " VALUES (" = ")  VALUES (" := by decide
  simp only [Clause.valuesText, columns, between, ← gap, String.append_assoc]

theorem inert_between (h : Columns pairs) : Inert (between pairs) := by
  refine (Inert.append (Inert.append (by decide) (Inert.intercalate ?_)) (by decide))
  rw [columnNames, List.forall_mem_map]
  exact fun pair mem => h.inert_bare mem

/-- The names of the columns are no variables. -/
theorem marker_not_mem_between (h : Columns pairs) : '@' ∉ (between pairs).toList := by
  have free : '@' ∉ (listed (columnNames pairs)).toList := by
    refine not_mem_intercalate (by decide) ?_
    rw [columnNames, List.forall_mem_map]
    exact fun pair mem => (h.isWord pair mem).not_mem (by decide)
  simp only [between, String.toList_append, List.mem_append, not_or]
  exact ⟨⟨by decide, free⟩, by decide⟩

theorem substitute_insert (h : Columns pairs) (closed : Closed table) (unmarked : '@' ∉ table.toList) :
    substitute ("INSERT INTO " ++ table ++ Clause.valuesText (Parameters.ofList pairs))
        (Parameters.ofList pairs).names =
      insertText table (columnNames pairs) := by
  have whole : "INSERT INTO " ++ table ++ Clause.valuesText (Parameters.ofList pairs) =
      "INSERT INTO " ++ (table ++ (between pairs ++ (listed (Parameters.ofList pairs).names ++ ")"))) := by
    rw [h.valuesText_eq, String.append_assoc]
  have first : (between pairs).toList.head? = some ' ' := by simp [between]
  have last : (between pairs).toList.getLast? = some '(' := by
    rw [between, String.toList_append, List.getLast?_append]
    rfl
  have opening : Closed "INSERT INTO " := Inert.closed (by decide)
  have names : Closed (listed (Parameters.ofList pairs).names) := (Inert.intercalate h.inert_names).closed
  have placed := h.substitute_names []
  rw [List.append_nil] at placed
  rw [whole, opening.substitute_append (unjoined_of_back (show ' ' ∈ separators by decide) (by decide) _),
    closed.substitute_append (unjoined_of_blank (by simp [first]) _),
    h.inert_between.closed.substitute_append (unjoined_of_back (show '(' ∈ separators by decide) last _),
    names.substitute_append (unjoined_of_front (show ')' ∈ separators by decide) (by simp) _), placed,
    substitute_of_not_mem (by decide), substitute_of_not_mem unmarked,
    substitute_of_not_mem h.marker_not_mem_between, substitute_of_not_mem (by decide)]
  -- By its definition as it stands: to derive an equation for a text as long as this takes seconds.
  delta insertText
  simp only [between, columnNames, List.length_map, String.append_assoc]

/-- The assignments are replaced at their places, whatever else is bound behind and whatever follows. -/
theorem substitute_update (h : Columns pairs) (closed : Closed table) (unmarked : '@' ∉ table.toList)
    (extra : List String) (apart : ∀ sql, Unjoined sql rest) :
    substitute ("UPDATE " ++ table ++ Clause.setText (Parameters.ofList pairs) ++ rest)
        ((Parameters.ofList pairs).names ++ extra) =
      updateText table (columnNames pairs) ++ substitute rest ((Parameters.ofList pairs).names ++ extra) := by
  have whole : "UPDATE " ++ table ++ Clause.setText (Parameters.ofList pairs) ++ rest =
      "UPDATE " ++ (table ++ (" SET " ++ (listed (pairs.map assignment) ++ rest))) := by
    rw [Clause.setText, h.assignments_eq]
    simp only [String.append_assoc]
  have opening : Closed "UPDATE " := Inert.closed (by decide)
  have set : Closed " SET " := Inert.closed (by decide)
  have assignments : Closed (listed (pairs.map assignment)) := (Inert.intercalate h.inert_assignment).closed
  rw [whole, opening.substitute_append (unjoined_of_back (show ' ' ∈ separators by decide) (by decide) _),
    closed.substitute_append (unjoined_of_blank (by simp) _),
    set.substitute_append (unjoined_of_back (show ' ' ∈ separators by decide) (by decide) _),
    assignments.substitute_append (apart _), h.substitute_assignments extra,
    substitute_of_not_mem (by decide), substitute_of_not_mem unmarked, substitute_of_not_mem (by decide)]
  simp only [updateText, String.append_assoc]

end Columns

theorem Parameters.empty_merge (parameters : Parameters) : empty.merge parameters = parameters := by
  obtain ⟨entries, distinct, marked⟩ := parameters
  have same : Entries.putAll [] entries = entries := Entries.putAll_nil distinct
  simp only [merge, empty, same]

namespace Session

variable {parameters : Parameters} {keyword condition : String}

theorem bindAll_eq_of_unbound (unbound : s.parameters = .empty) (parameters : Parameters) :
    s.bindAll parameters = (.ok (), { s with parameters }) := by
  have ok := bindAll_of_unbound unbound parameters
  unfold bindAll at ok ⊢
  rw [unbound] at ok ⊢
  cases merged : Parameters.empty.mergeDisjoint parameters with
  | error failure => rw [merged] at ok; cases ok
  | ok held => rw [(Parameters.mergeDisjoint_eq_ok merged).1, Parameters.empty_merge]

theorem merges_of_addCondition (ok : (s.addCondition keyword condition parameters).1 = .ok ()) :
    (s.addCondition keyword condition parameters).2.parameters = s.parameters.merge parameters ∧
      ∀ entry ∈ parameters.entries, s.parameters.clashes entry = false := by
  unfold addCondition bindAll at ok ⊢
  cases merged : s.parameters.mergeDisjoint parameters with
  | error failure => simp [merged] at ok
  | ok held =>
    obtain ⟨rfl, agree⟩ := Parameters.mergeDisjoint_eq_ok merged
    exact ⟨rfl, agree⟩

end Session

namespace Columns

theorem isEmpty_eq_false (h : Columns pairs) : (Parameters.ofList pairs).isEmpty = false := by
  rw [Parameters.isEmpty, h.entries_eq, List.isEmpty_map, List.isEmpty_eq_false_iff]
  exact h.present

/-- The values of a statement that nothing is bound to go in. -/
theorem perform_insertValues (h : Columns pairs) (unbound : s.parameters = .empty) :
    (Clause.insertValues (.ofList pairs)).perform s =
      (.ok (), { s.append (Clause.valuesText (.ofList pairs)) with parameters := .ofList pairs }) := by
  have appended : (s.append (Clause.valuesText (.ofList pairs))).parameters = .empty := unbound
  simp only [Clause.perform, h.isEmpty_eq_false, Bool.false_eq_true, if_false,
    Session.bindAll_eq_of_unbound appended]

theorem perform_updateSet (h : Columns pairs) (unbound : s.parameters = .empty) :
    (Clause.updateSet (.ofList pairs)).perform s =
      (.ok (), { s.append (Clause.setText (.ofList pairs)) with parameters := .ofList pairs }) := by
  have appended : (s.append (Clause.setText (.ofList pairs))).parameters = .empty := unbound
  simp only [Clause.perform, h.isEmpty_eq_false, Bool.false_eq_true, if_false,
    Session.bindAll_eq_of_unbound appended]

variable {q : Parameters}

/-- What is given for a column is as good as a value that a condition binds to its name again. -/
theorem alike_of_agree (h : Columns pairs)
    (agree : ∀ entry ∈ q.entries, (Parameters.ofList pairs).clashes entry = false) :
    ∀ pair ∈ pairs, ((Entries.find? (Name.marked pair.1) q.entries).getD pair.2).Alike pair.2 := by
  intro pair mem
  cases again : Entries.find? (Name.marked pair.1) q.entries with
  | none => exact .refl _
  | some value =>
    have own : Entries.find? (Name.marked pair.1) (Parameters.ofList pairs).entries = some pair.2 := by
      apply Entries.find?_of_mem (Parameters.ofList pairs).distinct
      rw [h.entries_eq]
      exact List.mem_map_of_mem mem
    have free := agree _ (Entries.mem_of_find? again)
    unfold Parameters.clashes at free
    rw [own] at free
    have equal : (pair.2 == value) = true := by simpa using free
    exact Value.Alike.symm (Or.inr equal)

theorem entries_merge (h : Columns pairs) (q : Parameters) :
    ((Parameters.ofList pairs).merge q).entries =
      (pairs.map fun pair =>
        (Name.marked pair.1, (Entries.find? (Name.marked pair.1) q.entries).getD pair.2)) ++
        q.entries.filter fun entry => entry.1 ∉ boundNames pairs := by
  have names : (Parameters.ofList pairs).entries.map (·.1) = boundNames pairs := h.names_eq
  have merged := Entries.putAll_eq (Parameters.ofList pairs).distinct q.distinct
  rw [names, h.entries_eq, List.map_map, ← h.entries_eq] at merged
  exact merged

end Columns

namespace Statement

theorem sends_request (t : Statement) : t.Sends (.execute : Terminal α) t.request := by
  apply sends_of_command
  intro default?
  exact ⟨_, rfl, rfl⟩

theorem request_eq {text : String} {entries : List (String × Value)} (query : t.session.query? = some text)
    (bound : t.session.parameters.entries = entries) :
    t.request = ⟨substitute text (entries.map (·.1)), entries.map fun entry => Argument.ofValue entry.2⟩ := by
  subst bound
  simp only [request, Request.new, Session.query, query, Option.getD_some, Parameters.names, Parameters.values,
    List.map_map]
  rfl

theorem exists_written {opening : Opening} {clause : Clause} {next : Stage} {fragment : String}
    {parameters : Parameters} (step : opening.stage.next? clause = some next)
    (performed : clause.perform (opening.perform s) =
      (.ok (), { (opening.perform s).append fragment with parameters })) :
    ∃ t left, (start s opening).addAll? [clause] = some (.ok t, left) ∧ t.stage = next ∧
      t.session.query? = some ((opening.perform s).query ++ fragment) ∧ t.session.parameters = parameters := by
  have ok : (clause.perform (start s opening).session).1 = .ok () := congrArg (·.1) performed
  refine ⟨_, _, addAll?_singleton step ok, rfl, ?_, ?_⟩
  · exact congrArg (·.2.query?) performed
  · exact congrArg (·.2.parameters) performed

theorem written_insertValues (h : Columns pairs) (s : Session) (table : String) :
    ∃ t left, (start s (.insertInto table)).addAll? [.insertValues (.ofList pairs)] = some (.ok t, left) ∧
      t.stage = .insertValues ∧
      t.session.query? = some ("INSERT INTO " ++ table ++ Clause.valuesText (.ofList pairs)) ∧
      t.session.parameters = .ofList pairs :=
  exists_written rfl (h.perform_insertValues rfl)

theorem written_updateSet (h : Columns pairs) (s : Session) (table : String) :
    ∃ t left, (start s (.update table)).addAll? [.updateSet (.ofList pairs)] = some (.ok t, left) ∧
      t.stage = .updateSet ∧
      t.session.query? = some ("UPDATE " ++ table ++ Clause.setText (.ofList pairs)) ∧
      t.session.parameters = .ofList pairs :=
  exists_written rfl (h.perform_updateSet rfl)

/-- A condition goes behind the assignments, and its parameters behind theirs. -/
theorem written_filter (h : Columns pairs) {condition : String} {parameters : Parameters}
    (written : (start s (.update table)).addAll? [.updateSet (.ofList pairs), .filter condition parameters] =
      some (.ok t, left)) :
    t.stage = .nonQueryWhere ∧
      t.session.query? =
        some ("UPDATE " ++ table ++ Clause.setText (.ofList pairs) ++ (" WHERE " ++ condition)) ∧
      t.session.parameters = (Parameters.ofList pairs).merge parameters ∧
      ∀ entry ∈ parameters.entries, (Parameters.ofList pairs).clashes entry = false := by
  obtain ⟨set, left', added, stage, query, bound⟩ := written_updateSet h s table
  have behind := addAll?_append added [.filter condition parameters]
  rw [List.singleton_append, written] at behind
  obtain ⟨next, step, ok, last⟩ := addAll?_cons_eq_ok behind.symm
  obtain rfl := addAll?_nil_eq_ok last
  rw [stage] at step
  cases step
  have merges := Session.merges_of_addCondition ok
  rw [bound] at merges
  exact ⟨rfl, Session.query?_addCondition query ok, merges⟩

/-- Value i goes into column i. The columns are written in the order in which they are given, each with the
position under which its value is sent. A condition behind an UPDATE changes no position, and its own
parameters are sent behind the values of the columns. -/
theorem sends_columns (columns : Columns pairs) (closed : Closed table) (unmarked : '@' ∉ table.toList)
    (s : Session) :
    let values := pairs.map fun pair => Argument.ofValue pair.2
    (∃ t left, (start s (.insertInto table)).addAll? [.insertValues (.ofList pairs)] = some (.ok t, left) ∧
      (Terminal.execute : Terminal α).admitted t.stage = true ∧
      t.Sends (.execute : Terminal α) ⟨insertText table (columnNames pairs), values⟩) ∧
    (∃ t left, (start s (.update table)).addAll? [.updateSet (.ofList pairs)] = some (.ok t, left) ∧
      (Terminal.execute : Terminal α).admitted t.stage = true ∧
      t.Sends (.execute : Terminal α) ⟨updateText table (columnNames pairs), values⟩) ∧
    ∀ (condition : String) (q : Parameters) (t : Statement) (left : Session),
      (start s (.update table)).addAll? [.updateSet (.ofList pairs), .filter condition q] = some (.ok t, left) →
      let kept := pairs.map fun pair =>
        (Name.marked pair.1, (Entries.find? (Name.marked pair.1) q.entries).getD pair.2)
      let added := q.entries.filter fun entry => entry.1 ∉ boundNames pairs
      (Terminal.execute : Terminal α).admitted t.stage = true ∧
      t.session.parameters.entries = kept ++ added ∧
      (∀ pair ∈ pairs, ((Entries.find? (Name.marked pair.1) q.entries).getD pair.2).Alike pair.2) ∧
      t.Sends (.execute : Terminal α)
        ⟨updateText table (columnNames pairs) ++
            substitute (" WHERE " ++ condition) ((kept ++ added).map (·.1)),
          (kept ++ added).map fun entry => Argument.ofValue entry.2⟩ := by
  intro values
  have placed : (Parameters.ofList pairs).entries.map (·.1) = (Parameters.ofList pairs).names := rfl
  have given : ((Parameters.ofList pairs).entries.map fun entry => Argument.ofValue entry.2) = values := by
    rw [columns.entries_eq, List.map_map]
    rfl
  refine ⟨?_, ?_, ?_⟩
  · obtain ⟨t, left, written, stage, query, bound⟩ := written_insertValues columns s table
    have request := request_eq query (congrArg (·.entries) bound)
    rw [placed, given, columns.substitute_insert closed unmarked] at request
    exact ⟨t, left, written, by rw [stage]; rfl, request ▸ t.sends_request⟩
  · obtain ⟨t, left, written, stage, query, bound⟩ := written_updateSet columns s table
    have request := request_eq query (congrArg (·.entries) bound)
    have alone := columns.substitute_update closed unmarked []
      (show ∀ sql, Unjoined sql "" from fun _ _ _ _ none => by cases none)
    have nothing := substitute_of_not_mem (show '@' ∉ "".toList by decide) (Parameters.ofList pairs).names
    rw [List.append_nil, nothing, String.append_empty, String.append_empty] at alone
    rw [placed, given, alone] at request
    exact ⟨t, left, written, by rw [stage]; rfl, request ▸ t.sends_request⟩
  · intro condition q t left written kept added
    obtain ⟨stage, query, bound, agree⟩ := written_filter columns written
    have entries : t.session.parameters.entries = kept ++ added := by
      rw [bound]
      exact columns.entries_merge q
    have request := request_eq query entries
    have front : kept.map (·.1) = (Parameters.ofList pairs).names := by
      rw [columns.names_eq, List.map_map]
      rfl
    have blank : (" WHERE " ++ condition).toList.head? = some ' ' := by simp
    rw [List.map_append, front, columns.substitute_update closed unmarked _ (unjoined_of_blank blank), ← front,
      ← List.map_append] at request
    exact ⟨by rw [stage]; rfl, entries, columns.alike_of_agree agree, request ▸ t.sends_request⟩

/-- The condition names a column again, and has a parameter of its own in front of it. -/
theorem sends_columns_named_again :
    let pairs : List (String × Value) := [("Name", .text "Ada"), ("@Age", .int 36)]
    let table := "[dbo].[Users]"
    let q := (Parameters.empty.bind "Id" (.int 7)).bind "Age" (.int 36)
    Columns pairs ∧ Closed table ∧ '@' ∉ table.toList ∧
      (∃ t left,
        (start (.new "") (.insertInto table)).addAll? [.insertValues (.ofList pairs)] = some (.ok t, left) ∧
        t.Sends (.execute : Terminal Unit)
          ⟨"INSERT INTO [dbo].[Users] (Name, Age)  VALUES (@P1, @P2)", [.nvarchar "Ada", .bigint 36]⟩) ∧
      ∃ t left, (start (.new "") (.update table)).addAll?
          [.updateSet (.ofList pairs), .filter "Id = @Id AND Age < @Age" q] = some (.ok t, left) ∧
        t.Sends (.execute : Terminal Unit)
          ⟨"UPDATE [dbo].[Users] SET Name = @P1, Age = @P2 WHERE Id = @P3 AND Age < @P2",
            [.nvarchar "Ada", .bigint 36, .bigint 7]⟩ := by
  intro pairs table q
  have columns : Columns pairs := ⟨by simp [pairs], by decide, by decide⟩
  have closed : Closed table := by decide +kernel
  have unmarked : '@' ∉ table.toList := by decide
  obtain ⟨⟨t, left, written, _, sends⟩, _, behind⟩ :=
    @sends_columns Unit pairs table columns closed unmarked (.new "")
  obtain ⟨t', left', written'⟩ : ∃ t left, (start (.new "") (.update table)).addAll?
      [.updateSet (.ofList pairs), .filter "Id = @Id AND Age < @Age" q] = some (.ok t, left) := ⟨_, _, rfl⟩
  obtain ⟨_, _, _, sends'⟩ := behind _ q t' left' written'
  refine ⟨columns, closed, unmarked, ⟨t, left, written, ?_⟩, t', left', written', ?_⟩
  · have text : insertText table (columnNames pairs) =
        "INSERT INTO [dbo].[Users] (Name, Age)  VALUES (@P1, @P2)" := by decide +kernel
    rw [text] at sends
    exact sends
  · have text : updateText table (columnNames pairs) ++
        substitute (" WHERE " ++ "Id = @Id AND Age < @Age") ["@Name", "@Age", "@Id"] =
          "UPDATE [dbo].[Users] SET Name = @P1, Age = @P2 WHERE Id = @P3 AND Age < @P2" := by decide +kernel
    have same : t'.Sends (.execute : Terminal Unit) ⟨updateText table (columnNames pairs) ++
        substitute (" WHERE " ++ "Id = @Id AND Age < @Age") ["@Name", "@Age", "@Id"],
          [.nvarchar "Ada", .bigint 36, .bigint 7]⟩ := sends'
    rw [text] at same
    exact same

end Statement

end TypedSql
