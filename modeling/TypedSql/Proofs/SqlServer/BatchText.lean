import Mathlib.Data.List.Basic
import TypedSql.Proofs.SqlServer.BatchReader

namespace TypedSql.SqlServer

theorem newline_not_mem_repr (n : Nat) : '\n' ∉ n.repr.toList := by
  intro mem
  rw [Nat.toList_repr] at mem
  exact absurd (Nat.isDigit_of_mem_toDigits (by decide) (by decide) mem) (by decide)

theorem newline_not_mem_repr_int (n : Int) : '\n' ∉ n.repr.toList := by
  rw [Int.repr_eq_if]
  split
  · exact newline_not_mem_repr _
  · rw [String.toList_append, List.mem_append, not_or]
    exact ⟨by decide, newline_not_mem_repr _⟩

theorem newline_not_mem_sized {name : String} (h : '\n' ∉ name.toList) (size : Int) :
    '\n' ∉ s!"{name}({size})".toList := by
  have digits := newline_not_mem_repr_int size
  simp only [toString, String.toList_append, List.mem_append, not_or]
  exact ⟨⟨⟨h, by decide⟩, digits⟩, by decide⟩

theorem newline_not_mem_varying {name : String} (h : '\n' ∉ name.toList) (limit : Int) (size : Option Int) :
    '\n' ∉ (SqlType.varying name limit size).toList := by
  have wide : '\n' ∉ (name ++ "(MAX)").toList := by simp [h]
  unfold SqlType.varying
  split
  next n =>
    split
    · exact newline_not_mem_sized h n
    · exact wide
  next => exact wide

theorem newline_not_mem_fixed {name overflow : String} (h : '\n' ∉ name.toList)
    (h' : '\n' ∉ overflow.toList) (limit : Int) (size : Option Int) :
    '\n' ∉ (SqlType.fixed name overflow limit size).toList := by
  have one : '\n' ∉ (name ++ "(1)").toList := by simp [h]
  have wide : '\n' ∉ (overflow ++ "(MAX)").toList := by simp [h']
  unfold SqlType.fixed
  split
  next n =>
    split
    · exact one
    · split
      · exact newline_not_mem_sized h n
      · exact wide
  next => exact one

theorem newline_not_mem_declaration (output : OutputParameter) : '\n' ∉ output.declaration.toList := by
  unfold OutputParameter.declaration SqlType.declaration
  cases output.type with
  | ansiString => exact newline_not_mem_varying (by decide) _ _
  | string => exact newline_not_mem_varying (by decide) _ _
  | binary => exact newline_not_mem_varying (by decide) _ _
  | ansiStringFixedLength => exact newline_not_mem_fixed (by decide) (by decide) _ _
  | stringFixedLength => exact newline_not_mem_fixed (by decide) (by decide) _ _
  | decimal =>
    have digits := newline_not_mem_repr
    simp only [toString, String.toList_append, List.mem_append, not_or]
    exact ⟨⟨⟨⟨by decide, digits _⟩, by decide⟩, digits _⟩, by decide⟩
  | _ =>
    dsimp only
    decide

theorem isPart_of_mem_positional {position : Nat} {c : Char}
    (mem : c ∈ (Placeholder.positional position).toList) : Name.isPart c = true := by
  simp only [Placeholder.positional, toString, String.toList_append, List.mem_append] at mem
  rcases mem with mem | mem
  · have marker : "@P".toList.all Name.isPart = true := by decide
    exact List.all_eq_true.mp marker c mem
  · rw [Nat.toList_repr] at mem
    have digit := Nat.isDigit_of_mem_toDigits (by decide) (by decide) mem
    simp [Name.isPart, Char.isAlphanum, digit]

theorem head?_append_ne {name : String} (h : Name.IsIdentifier name) (rest : String) :
    (name ++ rest).toList.head? ≠ some ' ' := by
  rw [String.toList_append]
  cases chars : name.toList with
  | nil => exact absurd (String.toList_eq_nil_iff.mp chars) h.ne_empty
  | cons c cs =>
    intro blank
    have mem : ' ' ∈ name.toList := by
      rw [chars, ← Option.some.inj blank]
      exact List.mem_cons_self
    exact h.not_mem (by decide) mem

/-- The text gives an argument under a name. -/
structure IsArgument (name text : String) : Prop where
  item : IsItem text
  newline : '\n' ∉ text.toList
  wordOf_eq : wordOf text.toList = name

theorem isArgument {name value : String} (h : Name.IsIdentifier name)
    (plain : ∀ c ∈ value.toList, Name.isPart c = true ∨ c = ' ') :
    IsArgument name (name ++ " = " ++ value) := by
  have free : ∀ c, Name.isPart c = false → c ∉ " =".toList → c ∉ (name ++ " = " ++ value).toList := by
    intro c other apart mem
    simp only [String.toList_append, List.mem_append] at mem
    rcases mem with (mem | mem) | mem
    · exact h.not_mem other mem
    · simp_all
    · rcases plain c mem with part | blank
      · simp [part] at other
      · simp [blank] at apart
  refine ⟨⟨free _ (by decide) (by decide), free _ (by decide) (by decide), ?_⟩,
    free _ (by decide) (by decide), ?_⟩
  · rw [String.append_assoc]
    exact head?_append_ne h _
  · rw [String.append_assoc]
    exact wordOf_append (h.not_mem (by decide)) ("= " ++ value)

/-- The text selects a column under a name. -/
structure IsColumn (name text : String) : Prop where
  item : IsItem text
  newline : '\n' ∉ text.toList
  aliasOf_eq : aliasOf text.toList = name

theorem isPart_of_mem_bare {name : String} (h : Name.IsIdentifier name) :
    ∀ c ∈ (Name.bare name).toList, Name.isPart c = true := by
  intro c mem
  apply h.isPart_of_mem
  unfold Name.bare at mem
  split at mem
  next rest chars =>
    rw [String.toList_ofList] at mem
    rw [chars]
    exact List.mem_cons_of_mem _ mem
  next => exact mem

theorem isColumn {column name : String} (h : Name.IsIdentifier column)
    (plain : ∀ c ∈ name.toList, Name.isPart c = true) :
    IsColumn name (column ++ " AS " ++ bracketed name) := by
  have free : ∀ c, Name.isPart c = false → c ∉ " AS []".toList →
      c ∉ (column ++ " AS " ++ bracketed name).toList := by
    intro c other apart mem
    simp only [bracketed, String.toList_append, String.toList_ofList, List.mem_append, List.mem_cons,
      List.mem_flatMap] at mem
    rcases mem with (mem | mem) | ((mem | ⟨part, there, mem⟩) | mem)
    · exact h.not_mem other mem
    · simp_all
    · simp_all
    · have inside := plain part there
      split at mem
      next closing =>
        rw [closing] at inside
        simp [Name.isPart] at inside
      next =>
        rw [← List.mem_singleton.mp mem, other] at inside
        simp at inside
    · simp_all
  refine ⟨⟨free _ (by decide) (by decide), free _ (by decide) (by decide), ?_⟩,
    free _ (by decide) (by decide), aliasOf_bracketed (h.not_mem (by decide)) name⟩
  rw [String.append_assoc]
  exact head?_append_ne h _

/-- A call whose names are all identifiers; the name of the procedure may be any on one line. -/
structure Identified (name : String) (parameters : Parameters) (outputs : List OutputParameter) : Prop where
  line : '\n' ∉ name.toList
  inputs : ∀ input ∈ parameters.names, Name.IsIdentifier input
  outputs : ∀ output ∈ outputs, Name.IsIdentifier output.name

variable {name : String} {parameters : Parameters} {outputs : List OutputParameter}

theorem Identified.input (h : Identified name parameters outputs) {input : String}
    (mem : input ∈ parameters.names) (position : Nat) :
    IsArgument input (input ++ " = " ++ Placeholder.positional position) :=
  isArgument (h.inputs input mem) fun _ there => Or.inl (isPart_of_mem_positional there)

theorem Identified.output (h : Identified name parameters outputs) {output : OutputParameter}
    (mem : output ∈ outputs) :
    IsArgument output.variableName (output.variableName ++ " = " ++ output.variableName ++ " OUTPUT") := by
  have identifier := (h.outputs output mem).marked
  rw [@String.append_assoc (output.variableName ++ " = ")]
  refine isArgument identifier fun c there => ?_
  rw [String.toList_append, List.mem_append] at there
  rcases there with there | there
  · exact Or.inl (identifier.isPart_of_mem c there)
  · have keyword : " OUTPUT".toList.all (fun c => Name.isPart c || c = ' ') = true := by decide
    simpa using List.all_eq_true.mp keyword c there

theorem Identified.argument (h : Identified name parameters outputs) {argument : String}
    (mem : argument ∈ callArguments parameters outputs) : ∃ given, IsArgument given argument := by
  rcases List.mem_append.mp mem with mem | mem
  · obtain ⟨⟨input, position⟩, there, rfl⟩ := List.mem_map.mp mem
    have bound : input ∈ parameters.names := by
      rw [← List.zipIdx_map_fst 1 parameters.names]
      exact List.mem_map_of_mem there
    exact ⟨input, h.input bound position⟩
  · obtain ⟨output, there, rfl⟩ := List.mem_map.mp mem
    exact ⟨_, h.output there⟩

theorem Identified.map_callArguments (h : Identified name parameters outputs) :
    (callArguments parameters outputs).map (fun argument => wordOf argument.toList) =
      parameters.names ++ outputs.map (·.variableName) := by
  rw [callArguments, List.map_append, List.map_map, List.map_map]
  refine congrArg₂ (· ++ ·) ?_ ?_
  · conv => rhs; rw [← List.zipIdx_map_fst 1 parameters.names]
    apply List.map_congr_left
    intro ⟨input, position⟩ there
    have bound : input ∈ parameters.names := by
      rw [← List.zipIdx_map_fst 1 parameters.names]
      exact List.mem_map_of_mem there
    exact (h.input bound position).wordOf_eq
  · apply List.map_congr_left
    intro output there
    exact (h.output there).wordOf_eq

def declareLine (output : OutputParameter) : String :=
  "DECLARE " ++ output.variableName ++ " " ++ output.declaration ++ " = NULL;"

theorem newline_not_mem_declareLine {output : OutputParameter} (h : Name.IsIdentifier output.name) :
    '\n' ∉ (declareLine output).toList := by
  simp only [declareLine, String.toList_append, List.mem_append, not_or]
  exact ⟨⟨⟨⟨by decide, h.marked.not_mem (by decide)⟩, by decide⟩, newline_not_mem_declaration output⟩,
    by decide⟩

theorem lines_join (h : ∀ output ∈ outputs, Name.IsIdentifier output.name) (rest : String) :
    lines (String.join (outputs.map declareText) ++ rest) =
      outputs.map (fun output => (declareLine output).toList) ++ lines rest := by
  induction outputs with
  | nil => simp
  | cons output outputs ih =>
    have own : declareText output = declareLine output ++ "\n" := by
      simp only [declareText, declareLine, String.append_assoc]
      rfl
    have later := ih fun other mem => h other (List.mem_cons_of_mem _ mem)
    have free := newline_not_mem_declareLine (h output List.mem_cons_self)
    rw [List.map_cons, String.join_cons, own, String.append_assoc, lines_append free, later]
    rfl

/-- The columns that are read back, with their names. -/
def readBackNames (outputs : List OutputParameter) (countRows : Bool) : List (String × String) :=
  (if countRows then [("@@ROWCOUNT", rowCountColumn)] else []) ++
    outputs.map fun output => (output.variableName, Name.bare output.name)

theorem readBackColumns_eq (outputs : List OutputParameter) (countRows : Bool) :
    readBackColumns outputs countRows =
      (readBackNames outputs countRows).map fun (column, name) => column ++ " AS " ++ bracketed name := by
  cases countRows <;> simp [readBackColumns, readBackNames, Function.comp_def]

theorem isColumn_of_mem (h : ∀ output ∈ outputs, Name.IsIdentifier output.name) {countRows : Bool}
    {named : String × String} (mem : named ∈ readBackNames outputs countRows) :
    IsColumn named.2 (named.1 ++ " AS " ++ bracketed named.2) := by
  rcases List.mem_append.mp mem with mem | mem
  · split at mem
    next =>
      have column : Name.IsIdentifier "@@ROWCOUNT" := by decide
      have count : Name.IsIdentifier rowCountColumn := by decide
      rw [List.mem_singleton.mp mem]
      exact isColumn column count.isPart_of_mem
    next => simp at mem
  · obtain ⟨output, there, rfl⟩ := List.mem_map.mp mem
    exact isColumn (h output there).marked (isPart_of_mem_bare (h output there))

theorem map_readBackColumns (h : ∀ output ∈ outputs, Name.IsIdentifier output.name) (countRows : Bool) :
    (readBackColumns outputs countRows).map (fun column => aliasOf column.toList) =
      (readBackNames outputs countRows).map (·.2) := by
  rw [readBackColumns_eq, List.map_map]
  apply List.map_congr_left
  intro named mem
  exact (isColumn_of_mem h mem).aliasOf_eq

def callLine (name : String) (parameters : Parameters) (outputs : List OutputParameter) : String :=
  "EXEC " ++ name ++ " " ++ ", ".intercalate (callArguments parameters outputs) ++ ";"

def selectLine (outputs : List OutputParameter) (countRows : Bool) : String :=
  "SELECT " ++ ", ".intercalate (readBackColumns outputs countRows) ++ ";"

theorem newline_not_mem_selectLine (h : ∀ output ∈ outputs, Name.IsIdentifier output.name)
    (countRows : Bool) : '\n' ∉ (selectLine outputs countRows).toList := by
  have columns : '\n' ∉ (", ".intercalate (readBackColumns outputs countRows)).toList := by
    refine not_mem_intercalate (by decide) fun column mem => ?_
    rw [readBackColumns_eq] at mem
    obtain ⟨named, there, rfl⟩ := List.mem_map.mp mem
    exact (isColumn_of_mem h there).newline
  simp only [selectLine, String.toList_append, List.mem_append, not_or]
  exact ⟨⟨by decide, columns⟩, by decide⟩

theorem outputBatch_eq (name : String) (parameters : Parameters) (present : outputs ≠ []) (countRows : Bool) :
    outputBatch name parameters outputs countRows =
      String.join (outputs.map declareText) ++
        (callLine name parameters outputs ++ "\n" ++ selectLine outputs countRows) := by
  have call : callText name parameters outputs ++ ";" = callLine name parameters outputs := by
    unfold callText callLine
    split
    next none => simp [callArguments, present] at none
    next => rfl
  rw [← call]
  simp only [outputBatch, selectLine, String.append_assoc]
  rfl

/-- The batch has a line for each declaration, one for the call and one that reads the outputs back. -/
theorem Identified.lines_outputBatch (h : Identified name parameters outputs) (present : outputs ≠ [])
    (countRows : Bool) :
    lines (outputBatch name parameters outputs countRows) =
      outputs.map (fun output => (declareLine output).toList) ++
        [(callLine name parameters outputs).toList, (selectLine outputs countRows).toList] := by
  have callFree : '\n' ∉ (callLine name parameters outputs).toList := by
    have arguments : '\n' ∉ (", ".intercalate (callArguments parameters outputs)).toList := by
      refine not_mem_intercalate (by decide) fun argument mem => ?_
      obtain ⟨_, argument⟩ := h.argument mem
      exact argument.newline
    simp only [callLine, String.toList_append, List.mem_append, not_or]
    exact ⟨⟨⟨⟨by decide, h.line⟩, by decide⟩, arguments⟩, by decide⟩
  rw [outputBatch_eq name parameters present, lines_join h.outputs, lines_append callFree, lines,
    List.splitOn_eq_singleton (newline_not_mem_selectLine h.outputs countRows)]

theorem after?_declareLine {output : OutputParameter} (h : Name.IsIdentifier output.name) :
    (Keyword.after? "DECLARE ".toList (declareLine output).toList).map wordOf = some output.variableName := by
  have line : declareLine output = "DECLARE " ++
      (output.variableName ++ (" " ++ (output.declaration ++ " = NULL;"))) := by
    simp only [declareLine, String.append_assoc]
  have oneWord : ' ' ∉ output.variableName.toList := h.marked.not_mem (by decide)
  rw [line, Keyword.after?_append, Option.map_some, wordOf_append oneWord]

theorem head?_declareLine (output : OutputParameter) : (declareLine output).toList.head? = some 'D' := by
  simp [declareLine]

theorem head?_callLine (name : String) (parameters : Parameters) (outputs : List OutputParameter) :
    (callLine name parameters outputs).toList.head? = some 'E' := by
  simp [callLine]

theorem head?_selectLine (outputs : List OutputParameter) (countRows : Bool) :
    (selectLine outputs countRows).toList.head? = some 'S' := by
  simp [selectLine]

/-- The batch declares the variables of the outputs, each time an output was declared. -/
theorem Identified.declaredIn_outputBatch (h : Identified name parameters outputs) (present : outputs ≠ [])
    (countRows : Bool) :
    declaredIn (outputBatch name parameters outputs countRows) = outputs.map (·.variableName) := by
  have declared : outputs.filterMap (fun output =>
      (Keyword.after? "DECLARE ".toList (declareLine output).toList).map wordOf) =
        outputs.map (·.variableName) := by
    rw [List.filterMap_eq_map_iff_forall_eq_some]
    intro output mem
    exact after?_declareLine (h.outputs output mem)
  have call := Keyword.after?_of_ne (show "DECLARE ".toList.head? = some 'D' from rfl)
    (head?_callLine name parameters outputs) (by decide)
  have select := Keyword.after?_of_ne (show "DECLARE ".toList.head? = some 'D' from rfl)
    (head?_selectLine outputs countRows) (by decide)
  rw [declaredIn, h.lines_outputBatch present, List.filterMap_append, List.filterMap_map]
  simp only [Function.comp_def, declared, List.filterMap_cons, call, select, Option.map_none,
    List.filterMap_nil, List.append_nil]

theorem Identified.passedIn_outputBatch (h : Identified name parameters outputs) (present : outputs ≠ [])
    (countRows : Bool) :
    passedIn name (outputBatch name parameters outputs countRows) =
      parameters.names ++ outputs.map (·.variableName) := by
  have first : ("EXEC " ++ name ++ " ").toList.head? = some 'E' := by simp
  have declares : outputs.filterMap (fun output =>
      Keyword.after? ("EXEC " ++ name ++ " ").toList (declareLine output).toList) = [] := by
    rw [List.filterMap_eq_nil_iff]
    intro output _
    exact Keyword.after?_of_ne first (head?_declareLine output) (by decide)
  have call : Keyword.after? ("EXEC " ++ name ++ " ").toList (callLine name parameters outputs).toList =
      some ((", ".intercalate (callArguments parameters outputs)).toList ++ [';']) := by
    rw [callLine, @String.append_assoc _ _ ";", Keyword.after?_append, String.toList_append]
    rfl
  have select := Keyword.after?_of_ne first (head?_selectLine outputs countRows) (by decide)
  have given : callArguments parameters outputs ≠ [] := by simp [callArguments, present]
  rw [passedIn, h.lines_outputBatch present, List.filterMap_append, List.filterMap_map]
  simp only [Function.comp_def, declares, List.filterMap_cons, call, select, List.filterMap_nil,
    List.nil_append, List.flatMap_cons, List.flatMap_nil, List.append_nil]
  rw [items_intercalate given, List.map_map]
  · exact h.map_callArguments
  · intro argument mem
    obtain ⟨_, argument⟩ := h.argument mem
    exact argument.item

/-- The last line names the row count, where it is asked for, and the outputs, whatever stands above. -/
theorem aliasesIn_outputBatch (h : ∀ output ∈ outputs, Name.IsIdentifier output.name) (name : String)
    (parameters : Parameters) (present : outputs ≠ []) (countRows : Bool) :
    aliasesIn (outputBatch name parameters outputs countRows) =
      (if countRows then [rowCountColumn] else []) ++ outputs.map fun output => Name.bare output.name := by
  have last : (lines (outputBatch name parameters outputs countRows)).getLast? =
      some (selectLine outputs countRows).toList := by
    rw [outputBatch_eq name parameters present, ← String.append_assoc, ← String.append_assoc]
    exact getLast?_lines (newline_not_mem_selectLine h countRows) _
  have select : Keyword.after? "SELECT ".toList (selectLine outputs countRows).toList =
      some ((", ".intercalate (readBackColumns outputs countRows)).toList ++ [';']) := by
    rw [selectLine, String.append_assoc, Keyword.after?_append, String.toList_append]
    rfl
  have columns : readBackColumns outputs countRows ≠ [] := by simp [readBackColumns, present]
  rw [aliasesIn, last, Option.bind_some, select]
  simp only
  rw [items_intercalate columns, List.map_map]
  · refine (map_readBackColumns h countRows).trans ?_
    cases countRows <;> simp [readBackNames, Function.comp_def]
  · intro column mem
    rw [readBackColumns_eq] at mem
    obtain ⟨named, there, rfl⟩ := List.mem_map.mp mem
    exact (isColumn_of_mem h there).item

end TypedSql.SqlServer
