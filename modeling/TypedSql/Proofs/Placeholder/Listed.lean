import TypedSql.Proofs.Placeholder.Marker
import TypedSql.Proofs.Placeholder.Spelled
import TypedSql.Proofs.SqlServer.BatchReader

namespace TypedSql

open Placeholder Text

namespace Name

/-- A letter or a digit of ASCII, or an underscore. -/
def isWordPart (c : Char) : Bool := c.isAlphanum || c = '_'

structure IsWord (name : String) : Prop where
  ne_empty : name ≠ ""
  isWordPart_of_mem : ∀ c ∈ name.toList, isWordPart c = true

theorem isWord_iff {name : String} : IsWord name ↔ name ≠ "" ∧ name.toList.all isWordPart = true :=
  ⟨fun h => ⟨h.ne_empty, List.all_eq_true.mpr h.isWordPart_of_mem⟩,
    fun ⟨present, parts⟩ => ⟨present, List.all_eq_true.mp parts⟩⟩

instance (name : String) : Decidable (IsWord name) := decidable_of_iff' _ isWord_iff

theorem IsWord.not_mem {name : String} (h : IsWord name) {c : Char} (other : isWordPart c = false) :
    c ∉ name.toList := by
  intro mem
  rw [h.isWordPart_of_mem c mem] at other
  cases other

theorem toNat_lt_of_isWordPart {c : Char} (part : isWordPart c = true) : c.toNat < 128 := by
  have below : ∀ last : Char, last.toNat < 128 → c.val ≤ last.val → c.toNat < 128 :=
    fun _ ascii le => Nat.lt_of_le_of_lt (UInt32.le_iff_toNat_le.mp le) ascii
  rcases Bool.or_eq_true_iff.mp part with alphanum | underscore
  · rcases Bool.or_eq_true_iff.mp alphanum with alpha | digit
    · rcases Bool.or_eq_true_iff.mp alpha with upper | lower
      · have range : 'A'.val ≤ c.val ∧ c.val ≤ 'Z'.val := of_decide_eq_true upper
        exact below 'Z' (by decide) range.2
      · exact below 'z' (by decide) (of_decide_eq_true (Bool.and_eq_true_iff.mp lower).2)
    · exact below '9' (by decide) (of_decide_eq_true (Bool.and_eq_true_iff.mp digit).2)
  · rw [of_decide_eq_true underscore]
    decide

theorem marked_eq (name : String) : marked name = "@" ++ bare name := by
  unfold marked bare
  split
  next rest chars =>
    rw [← String.toList_inj]
    simp only [String.toList_append, String.toList_ofList, chars]
    rfl
  next => rfl

theorem bare_marked (name : String) : bare (marked name) = bare name := by
  rw [marked_eq]
  generalize bare name = word
  unfold bare
  have chars : ("@" ++ word).toList = '@' :: word.toList := String.toList_append
  rw [chars]
  exact String.ofList_toList

/-- The marker does not tell names apart. -/
theorem sameIgnoringCase_marked (name name' : String) :
    sameIgnoringCase (marked name) (marked name') = sameIgnoringCase (bare name) (bare name') := by
  have chars : ∀ word : String, ("@" ++ word).toList = '@' :: word.toList := fun word => String.toList_append
  simp only [sameIgnoringCase, marked_eq, chars, List.map_cons, List.cons.injEq, true_and]

end Name

namespace Placeholder

variable {sql word item : String} {items bound : List String}

theorem marker_mem_of_mem_lex {block : List UInt8 → Nat} {before : Option UInt8} {bs : List UInt8} {t : Token}
    (mem : t ∈ lex block before bs) (kind : t.kind = .variable) : '@'.toUInt8 ∈ t.text := by
  fun_induction lex block before bs with
  | case1 => cases mem
  | case2 before b rest kind' extra hm text ih =>
    rcases List.mem_cons.mp mem with rfl | mem
    · subst kind
      obtain ⟨rfl, _⟩ := measure_variable hm
      exact List.mem_cons_self
    · exact ih mem

/-- A text without a marker is sent as it stands. -/
theorem substitute_of_not_mem (free : '@' ∉ sql.toList) (bound : List String) :
    substitute sql bound = sql := by
  have unbound : ∀ t ∈ scanned sql, t.position? bound = none := by
    intro t mem
    refine if_neg fun kind => free ?_
    have marker := marker_mem_of_mem_lex mem kind
    rw [← mem_utf8 (by decide), ← flatMap_lex (wrappedLength 1) none (utf8 sql)]
    exact List.mem_flatMap.mpr ⟨t, mem, marker⟩
  rw [substitute, substitute?_eq_none_iff.mpr unbound]
  rfl

/-- The characters that open a quoted region, or a comment together with another. -/
def openers : List Char := ['\'', '"', '[', '-', '/']

/-- A text in which no quoted region and no comment can begin. -/
def Inert (sql : String) : Prop := ∀ c ∈ openers, c ∉ sql.toList

instance (sql : String) : Decidable (Inert sql) := List.decidableBAll _ openers

namespace Inert

variable {sql' : String}

theorem append (h : Inert sql) (h' : Inert sql') : Inert (sql ++ sql') := by
  intro c opener mem
  rw [String.toList_append, List.mem_append] at mem
  exact mem.elim (h c opener) (h' c opener)

theorem intercalate (h : ∀ item ∈ items, Inert item) : Inert (", ".intercalate items) :=
  fun c opener => SqlServer.not_mem_intercalate ((show Inert ", " by decide) c opener)
    fun item mem => h item mem c opener

theorem closed (h : Inert sql) : Closed sql := by
  apply closed_of_opens
  intro b mem
  have other : ∀ c ∈ openers, b ≠ c.toUInt8 := by
    rintro c opener rfl
    have ascii : ∀ c ∈ openers, c.toNat < 128 := by simp [openers]
    exact h c opener ((mem_utf8 (ascii c opener)).mp mem)
  have apart := fun (c : Char) (opener : c ∈ openers) => decide_eq_false (other c opener)
  simp only [opens, Bool.or_eq_false_iff]
  exact ⟨⟨⟨⟨apart _ (by decide), apart _ (by decide)⟩, apart _ (by decide)⟩, apart _ (by decide)⟩,
    apart _ (by decide)⟩

end Inert

theorem inert_of_isWord (h : Name.IsWord word) : Inert word := by
  have other : openers.all (!Name.isWordPart ·) = true := by decide
  intro c opener
  exact h.not_mem (by simpa using List.all_eq_true.mp other c opener)

/-- A list is replaced item by item. -/
theorem substitute_intercalate (closed : ∀ item ∈ items, Closed item) (bound : List String) :
    substitute (", ".intercalate items) bound = ", ".intercalate (items.map (substitute · bound)) := by
  induction items with
  | nil => exact substitute_of_not_mem (by simp) bound
  | cons item rest ih =>
    cases rest with
    | nil => rfl
    | cons second rest =>
      have own : Closed item := closed item List.mem_cons_self
      have later := ih fun item mem => closed item (List.mem_cons_of_mem _ mem)
      have comma : Closed ", " := by decide +kernel
      have kept : substitute ", " bound = ", " := substitute_of_not_mem (by decide) bound
      rw [String.intercalate_cons_cons, String.append_assoc,
        own.substitute_append (unjoined_of_front (show ',' ∈ separators by decide) (by simp) _),
        comma.substitute_append (unjoined_of_back (show ' ' ∈ separators by decide) (by decide) _),
        kept, later]
      simp only [List.map_cons, String.intercalate_cons_cons, String.append_assoc]

theorem isIdentifier_of_isWord (h : Name.IsWord word) :
    ∀ b ∈ utf8 word, isIdentifier b = true ∧ b ≠ '@'.toUInt8 := by
  intro b mem
  rw [utf8_eq_flatMap] at mem
  obtain ⟨c, there, byte⟩ := List.mem_flatMap.mp mem
  have part := h.isWordPart_of_mem c there
  have ascii := Name.toNat_lt_of_isWordPart part
  rw [utf8EncodeChar_of_lt ascii, List.mem_singleton] at byte
  subst byte
  exact forall_ascii (P := fun c => Name.isWordPart c = true →
    isIdentifier c.toUInt8 = true ∧ c.toUInt8 ≠ '@'.toUInt8) (by decide +kernel) ascii part

/-- The name of a column behind its marker is one variable. -/
theorem scanned_marked (h : Name.IsWord word) :
    scanned ("@" ++ word) = [⟨.variable, utf8 ("@" ++ word)⟩] := by
  have bytes : utf8 ("@" ++ word) = '@'.toUInt8 :: utf8 word := utf8_append _ _
  have parts := isIdentifier_of_isWord h
  have length : identifierLength (utf8 word) = (utf8 word).length :=
    identifierLength_of_all fun b mem => (parts b mem).1
  have present : utf8 word ≠ [] := fun empty => h.ne_empty (utf8_inj.mp empty)
  have single : (utf8 word).head? ≠ some '@'.toUInt8 :=
    fun twice => (parts _ (List.mem_of_head? twice)).2 rfl
  unfold scanned
  rw [bytes]
  apply lex_of_measure
  rw [measure_marker, if_neg single, length, if_pos ⟨rfl, List.length_pos_iff.mpr present⟩]

theorem substitute_marked (h : Name.IsWord word) {i : Nat}
    (found : bound.findIdx? (Name.sameIgnoringCase · ("@" ++ word)) = some i) :
    substitute ("@" ++ word) bound = positional (i + 1) := by
  have spells : Token.Spells ⟨.variable, utf8 ("@" ++ word)⟩ ("@" ++ word) := ⟨rfl, rfl⟩
  have place := spells.position?_eq bound
  rw [found] at place
  rw [← utf8_inj, (substitute?_spec _ _).1, scanned_marked h, List.flatMap_singleton,
    Token.render_of_position place]

theorem substitute_assigned (h : Name.IsWord word) {i : Nat}
    (found : bound.findIdx? (Name.sameIgnoringCase · ("@" ++ word)) = some i) :
    substitute (word ++ " = " ++ ("@" ++ word)) bound = word ++ " = " ++ positional (i + 1) := by
  have closed : Closed (word ++ " = ") := ((inert_of_isWord h).append (by decide)).closed
  have apart : Unjoined (word ++ " = ") ("@" ++ word) :=
    unjoined_of_back (show ' ' ∈ separators by decide) (by simp) _
  have unmarked : '@' ∉ (word ++ " = ").toList := by
    rw [String.toList_append, List.mem_append, not_or]
    exact ⟨h.not_mem (by decide), by decide⟩
  rw [closed.substitute_append apart, substitute_of_not_mem unmarked, substitute_marked h found]

end Placeholder

end TypedSql
