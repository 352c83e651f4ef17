import TypedSql.Proofs.Text.Keyword
import TypedSql.SqlServer.Batch

namespace TypedSql

namespace Name

/-- A character that a name may hold. -/
def isPart (c : Char) : Bool :=
  c.isAlphanum || c = '_' || c = '@' || c = '#' || c = '$' || 128 ≤ c.toNat

/-- A name that is written without brackets, with its marker or without. -/
structure IsIdentifier (name : String) : Prop where
  ne_empty : name ≠ ""
  isPart_of_mem : ∀ c ∈ name.toList, isPart c = true

theorem isIdentifier_iff {name : String} :
    IsIdentifier name ↔ name ≠ "" ∧ name.toList.all isPart = true :=
  ⟨fun h => ⟨h.ne_empty, List.all_eq_true.mpr h.isPart_of_mem⟩,
    fun ⟨present, parts⟩ => ⟨present, List.all_eq_true.mp parts⟩⟩

instance (name : String) : Decidable (IsIdentifier name) := decidable_of_iff' _ isIdentifier_iff

theorem IsIdentifier.not_mem {name : String} (h : IsIdentifier name) {c : Char} (other : isPart c = false) :
    c ∉ name.toList := by
  intro mem
  rw [h.isPart_of_mem c mem] at other
  simp at other

theorem IsIdentifier.marked {name : String} (h : IsIdentifier name) : IsIdentifier (marked name) := by
  unfold Name.marked
  split
  next => exact h
  next =>
    refine ⟨by simp, fun c mem => ?_⟩
    rw [String.toList_append, List.mem_append] at mem
    rcases mem with mem | mem
    · rw [List.mem_singleton.mp mem]
      rfl
    · exact h.isPart_of_mem c mem

end Name

namespace SqlServer

/-- The lines of a text. -/
def lines (sql : String) : List (List Char) := sql.toList.splitOn '\n'

/-- The word at the front of a text. -/
def wordOf (cs : List Char) : String := String.ofList (cs.takeWhile (· ≠ ' '))

/-- The items of a list that reaches to the end of its statement. -/
def items (cs : List Char) : List (List Char) :=
  ((cs.takeWhile (· ≠ ';')).splitOn ',').map fun item => item.dropWhile (· = ' ')

/-- What stands between brackets: a doubled closing bracket is one of the name, a single one ends it. -/
def unbracketed : List Char → List Char
  | [] => []
  | c :: rest =>
    if c = ']' then
      match rest with
      | ']' :: more => ']' :: unbracketed more
      | _ => []
    else c :: unbracketed rest

/-- The name that a column is given in brackets. -/
def aliasOf (item : List Char) : String :=
  String.ofList (unbracketed ((item.dropWhile (· ≠ '[')).drop 1))

/-- The variables that a text declares, one on a line. -/
def declaredIn (sql : String) : List String :=
  (lines sql).filterMap fun line => (Keyword.after? "DECLARE ".toList line).map wordOf

/-- The arguments that a text names where it calls a procedure. -/
def passedIn (name sql : String) : List String :=
  ((lines sql).filterMap (Keyword.after? ("EXEC " ++ name ++ " ").toList)).flatMap fun list =>
    (items list).map wordOf

/-- The names of the columns that the last line of a text selects. -/
def aliasesIn (sql : String) : List String :=
  match (lines sql).getLast?.bind (Keyword.after? "SELECT ".toList) with
  | some list => (items list).map aliasOf
  | none => []

theorem lines_append {line : String} (h : '\n' ∉ line.toList) (rest : String) :
    lines (line ++ "\n" ++ rest) = line.toList :: lines rest := by
  rw [lines, String.append_assoc, String.toList_append, String.toList_append]
  exact List.splitOn_append_cons_self_of_not_mem h _

theorem getLast?_lines {line : String} (h : '\n' ∉ line.toList) (before : String) :
    (lines (before ++ "\n" ++ line)).getLast? = some line.toList := by
  have split : (before.toList ++ '\n' :: line.toList).splitOn '\n' =
      before.toList.splitOn '\n' ++ line.toList.splitOn '\n' := List.splitOn_append_cons_self _ _
  have text : (before ++ "\n" ++ line).toList = before.toList ++ '\n' :: line.toList := by
    rw [String.append_assoc, String.toList_append, String.toList_append]
    rfl
  rw [lines, text, split, List.splitOn_eq_singleton h, List.getLast?_concat]

theorem wordOf_append {word : String} (h : ' ' ∉ word.toList) (rest : String) :
    wordOf (word ++ (" " ++ rest)).toList = word := by
  have kept : ∀ c ∈ word.toList, decide (c ≠ ' ') = true := by
    intro c mem
    rw [decide_eq_true_iff]
    intro same
    exact h (same ▸ mem)
  have blank : (" " ++ rest).toList = ' ' :: rest.toList := String.toList_append
  rw [wordOf, String.toList_append, List.takeWhile_append_of_pos kept, blank,
    List.takeWhile_cons_of_neg (by simp), List.append_nil, String.ofList_toList]

/-- A text that can be told apart from its neighbours in a list. -/
structure IsItem (text : String) : Prop where
  comma : ',' ∉ text.toList
  semicolon : ';' ∉ text.toList
  head?_ne : text.toList.head? ≠ some ' '

theorem splitOn_intercalate_blank {first : List Char} {rest : List (List Char)}
    (h : ∀ item ∈ first :: rest, ',' ∉ item) :
    ([',', ' '].intercalate (first :: rest)).splitOn ',' = first :: rest.map (' ' :: ·) := by
  induction rest generalizing first with
  | nil =>
    rw [List.intercalate_singleton, List.map_nil]
    exact List.splitOn_eq_singleton (h first List.mem_cons_self)
  | cons second rest ih =>
    have later : (' ' :: ([',', ' '].intercalate (second :: rest))) =
        [',', ' '].intercalate ((' ' :: second) :: rest) := by
      cases rest with
      | nil => rfl
      | cons third rest => simp only [List.intercalate_cons_cons, List.cons_append]
    rw [List.intercalate_cons_cons, List.append_assoc, List.cons_append, List.singleton_append, later,
      List.splitOn_append_cons_self_of_not_mem (h first List.mem_cons_self), ih]
    · rfl
    · intro item mem
      rcases List.mem_cons.mp mem with rfl | mem
      · have := h second (List.mem_cons_of_mem _ List.mem_cons_self)
        simpa using this
      · exact h item (List.mem_cons_of_mem _ (List.mem_cons_of_mem _ mem))

theorem not_mem_intercalate {c : Char} {separator : String} {texts : List String}
    (between : c ∉ separator.toList) (h : ∀ text ∈ texts, c ∉ text.toList) :
    c ∉ (separator.intercalate texts).toList := by
  induction texts with
  | nil => simp
  | cons first rest ih =>
    have own := h first List.mem_cons_self
    have later := ih fun text mem => h text (List.mem_cons_of_mem _ mem)
    cases rest with
    | nil => simpa using own
    | cons second rest =>
      simp only [String.intercalate_cons_cons, String.toList_append, List.mem_append, not_or]
      exact ⟨⟨own, between⟩, later⟩

theorem items_intercalate {texts : List String} (present : texts ≠ []) (h : ∀ text ∈ texts, IsItem text) :
    items ((", ".intercalate texts).toList ++ [';']) = texts.map String.toList := by
  have ends : ((", ".intercalate texts).toList ++ [';']).takeWhile (· ≠ ';') =
      (", ".intercalate texts).toList := by
    have free : ';' ∉ (", ".intercalate texts).toList :=
      not_mem_intercalate (by decide) fun text mem => (h text mem).semicolon
    have kept : ∀ c ∈ (", ".intercalate texts).toList, decide (c ≠ ';') = true := by
      intro c mem
      rw [decide_eq_true_iff]
      intro semicolon
      exact free (semicolon ▸ mem)
    rw [List.takeWhile_append_of_pos kept, List.takeWhile_cons_of_neg (by simp), List.append_nil]
  have trimmed : ∀ text ∈ texts, (text.toList.dropWhile (· = ' ')) = text.toList := by
    intro text mem
    have head := (h text mem).head?_ne
    cases chars : text.toList with
    | nil => rfl
    | cons c rest =>
      rw [chars, List.head?_cons, Ne, Option.some.injEq] at head
      rw [List.dropWhile_cons_of_neg (by simpa using head)]
  rw [items, ends, String.toList_intercalate]
  cases texts with
  | nil => exact absurd rfl present
  | cons first rest =>
    have split : ([',', ' '].intercalate ((first :: rest).map String.toList)).splitOn ',' =
        first.toList :: (rest.map String.toList).map (' ' :: ·) := by
      apply splitOn_intercalate_blank
      intro item mem
      rw [← List.map_cons] at mem
      obtain ⟨text, there, rfl⟩ := List.mem_map.mp mem
      exact (h text there).comma
    have own := trimmed first List.mem_cons_self
    rw [show ", ".toList = [',', ' '] from rfl, split, List.map_cons, own, List.map_cons, List.map_map,
      List.map_map]
    congr 1
    apply List.map_congr_left
    intro text mem
    exact trimmed text (List.mem_cons_of_mem _ mem)

theorem unbracketed_doubled (cs : List Char) :
    unbracketed (cs.flatMap (fun c => if c = ']' then [']', ']'] else [c]) ++ [']']) = cs := by
  induction cs with
  | nil => rfl
  | cons c rest ih =>
    by_cases closing : c = ']'
    · subst closing
      simpa [unbracketed] using ih
    · rw [List.flatMap_cons, if_neg closing, List.singleton_append, List.cons_append]
      unfold unbracketed
      rw [if_neg closing, ih]

/-- Quoting is undone, whatever stands in the name. -/
theorem aliasOf_bracketed {column : String} (h : '[' ∉ column.toList) (name : String) :
    aliasOf (column ++ " AS " ++ bracketed name).toList = name := by
  have skipped : ∀ c ∈ (column ++ " AS ").toList, decide (c ≠ '[') = true := by
    intro c mem
    rw [decide_eq_true_iff]
    intro opening
    subst opening
    simp [h] at mem
  rw [aliasOf, String.toList_append, List.dropWhile_append_of_pos skipped, bracketed, String.toList_ofList,
    List.cons_append, List.dropWhile_cons_of_neg (by simp), List.drop_one, List.tail_cons, unbracketed_doubled,
    String.ofList_toList]

end SqlServer

end TypedSql
