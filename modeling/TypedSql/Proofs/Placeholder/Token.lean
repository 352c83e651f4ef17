import TypedSql.Placeholder
import TypedSql.Proofs.Text.Utf8

namespace TypedSql.Placeholder

inductive TokenKind where
  | quoted (quote : Quote)
  | lineComment
  | blockComment
  | systemVariable
  | variable
  | other
  deriving DecidableEq

structure Token where
  kind : TokenKind
  text : List UInt8
  deriving DecidableEq

/-- How far a quoted region goes on: up to its first closing byte that is not doubled, and with it. -/
def quotedLength (closing : UInt8) : List UInt8 → Nat
  | [] => 0
  | b :: rest =>
    if b = closing then
      match rest with
      | [] => 1
      | next :: further => if next = closing then quotedLength closing further + 2 else 1
    else quotedLength closing rest + 1

def lineLength (bs : List UInt8) : Nat := (bs.takeWhile (· ≠ '\n'.toUInt8)).length

/-- How far it is to the end of all comments where `depth` of them are open. -/
def blockLength : Nat → List UInt8 → Nat
  | 0, _ => 0
  | _ + 1, [] => 0
  | _ + 1, [_] => 1
  | depth + 1, b :: next :: further =>
    if b = '/'.toUInt8 ∧ next = '*'.toUInt8 then blockLength (depth + 2) further + 2
    else if b = '*'.toUInt8 ∧ next = '/'.toUInt8 then blockLength depth further + 2
    else blockLength (depth + 1) (next :: further) + 1

/-- The same where the open comments are counted in 32 bits. -/
def wrappedLength (depth : UInt32) : List UInt8 → Nat
  | [] => 0
  | [_] => 1
  | b :: next :: further =>
    if b = '/'.toUInt8 ∧ next = '*'.toUInt8 then wrappedLength (depth + 1) further + 2
    else if b = '*'.toUInt8 ∧ next = '/'.toUInt8 then
      if depth = 1 then 2 else wrappedLength (depth - 1) further + 2
    else wrappedLength depth (next :: further) + 1

def identifierLength (bs : List UInt8) : Nat := (bs.takeWhile isIdentifier).length

/-- What a token is that begins with `b`, and how many bytes of the rest belong to it. `before` is the
byte in front of the token, `block` tells how far a comment goes on once it has begun. -/
def measure (block : List UInt8 → Nat) (before : Option UInt8) (b : UInt8) (rest : List UInt8) :
    TokenKind × Nat :=
  if b = '\''.toUInt8 then (.quoted .single, quotedLength Quote.single.closing rest)
  else if b = '"'.toUInt8 then (.quoted .double, quotedLength Quote.double.closing rest)
  else if b = '['.toUInt8 then (.quoted .bracket, quotedLength Quote.bracket.closing rest)
  else if b = '-'.toUInt8 ∧ rest.head? = some '-'.toUInt8 then (.lineComment, lineLength rest)
  else if b = '/'.toUInt8 ∧ rest.head? = some '*'.toUInt8 then
    (.blockComment, block (rest.drop 1) + 1)
  else if b = '@'.toUInt8 ∧ rest.head? = some '@'.toUInt8 then
    (.systemVariable, identifierLength (rest.drop 1) + 1)
  else if b = '@'.toUInt8 ∧ before.any gluesMarker = false ∧ 0 < identifierLength rest then
    (.variable, identifierLength rest)
  else (.other, 0)

/-- Cuts a text into tokens; `before` is the byte in front of it. -/
def lex (block : List UInt8 → Nat) (before : Option UInt8) : List UInt8 → List Token
  | [] => []
  | b :: rest =>
    let (kind, extra) := measure block before b rest
    let text := b :: rest.take extra
    ⟨kind, text⟩ :: lex block text.getLast? (rest.drop extra)
termination_by bs => bs.length
decreasing_by simp only [List.length_cons, List.length_drop]; omega

/-- The tokens of a statement, where comments nest to any depth. -/
def tokens (sql : String) : List Token := lex (blockLength 1) none (Text.utf8 sql)

/-- The tokens of a statement as the scan finds them. -/
def scanned (sql : String) : List Token := lex (wrappedLength 1) none (Text.utf8 sql)

/-- The position, from 1, of the first bound name that a token spells up to the case of ASCII letters,
if the token is a variable. -/
def Token.position? (bound : List String) (t : Token) : Option Nat :=
  if t.kind = .variable then
    (bound.findIdx? fun name => (Text.utf8 name).map Text.lowerByte = t.text.map Text.lowerByte).map (· + 1)
  else none

/-- A token with the position in its place if it is a bound variable. -/
def Token.render (bound : List String) (t : Token) : List UInt8 :=
  match t.position? bound with
  | some position => Text.utf8 (positional position)
  | none => t.text

theorem Token.render_of_position {bound : List String} {t : Token} {position : Nat}
    (h : t.position? bound = some position) :
    t.render bound = Text.utf8 (positional position) := by
  simp only [Token.render, h]

theorem Token.render_of_unbound {bound : List String} {t : Token} (h : t.position? bound = none) :
    t.render bound = t.text := by
  simp only [Token.render, h]

/-- Nothing is lost in the cutting, and nothing is added. -/
theorem flatMap_lex (block : List UInt8 → Nat) (before : Option UInt8) (bs : List UInt8) :
    (lex block before bs).flatMap (·.text) = bs := by
  fun_induction lex block before bs with
  | case1 => rfl
  | case2 before b rest kind extra h text ih =>
    rw [List.flatMap_cons, ih]
    simp only [text, List.cons_append, List.take_append_drop]

theorem quotedLength_cons_of_ne {closing b : UInt8} (h : b ≠ closing) (rest : List UInt8) :
    quotedLength closing (b :: rest) = quotedLength closing rest + 1 := by
  cases rest <;> simp [quotedLength, h]

theorem quotedLength_le (closing : UInt8) (bs : List UInt8) :
    quotedLength closing bs ≤ bs.length := by
  fun_induction quotedLength closing bs <;> simp_all

theorem wrappedLength_le (depth : UInt32) (bs : List UInt8) : wrappedLength depth bs ≤ bs.length := by
  fun_induction wrappedLength depth bs <;> simp_all

theorem toNat_deeper {depth : UInt32} (room : depth.toNat + 1 < UInt32.size) :
    (depth + 1).toNat = depth.toNat + 1 := (UInt32.toNat_add depth 1).trans (Nat.mod_eq_of_lt room)

theorem toNat_shallower {depth : UInt32} (positive : 0 < depth.toNat) : (depth - 1).toNat = depth.toNat - 1 :=
  UInt32.toNat_sub_of_le depth 1 (UInt32.le_iff_toNat_le.mpr positive)

/-- The count is right as long as it cannot wrap. -/
theorem wrappedLength_eq (depth : UInt32) (bs : List UInt8) (positive : 0 < depth.toNat)
    (small : depth.toNat + bs.length < UInt32.size) :
    wrappedLength depth bs = blockLength depth.toNat bs := by
  obtain ⟨d, hd⟩ : ∃ d, depth.toNat = d + 1 := ⟨depth.toNat - 1, by omega⟩
  -- A byte deepens the nesting by one at most, so depth and rest together never grow past `small`.
  fun_induction wrappedLength depth bs generalizing d with
  | case1 depth => rw [hd, blockLength]
  | case2 depth b => rw [hd, blockLength]
  | case3 depth b next further opens ih =>
    simp only [List.length_cons] at small
    have deeper : (depth + 1).toNat = depth.toNat + 1 := toNat_deeper (by omega)
    rw [ih (by omega) (by omega) (d + 1) (by omega), hd, blockLength, if_pos opens, deeper, hd]
  | case4 b next further opens closes =>
    have last : d = 0 := by simpa using hd.symm
    rw [hd, blockLength, if_neg opens, if_pos closes, last, blockLength]
  | case5 depth b next further opens closes more ih =>
    simp only [List.length_cons] at small
    have two : d ≠ 0 := by
      intro zero
      apply more
      apply UInt32.toNat_inj.mp
      rw [hd, zero]
      rfl
    have higher : (depth - 1).toNat = d := by
      rw [toNat_shallower positive, hd, Nat.add_sub_cancel]
    rw [ih (by omega) (by omega) (d - 1) (by omega), hd, blockLength, if_neg opens, if_pos closes, higher]
  | case6 depth b next further opens closes ih =>
    simp only [List.length_cons] at small ih
    rw [ih positive (by omega) d hd, hd, blockLength, if_neg opens, if_neg closes]

theorem lineLength_le (bs : List UInt8) : lineLength bs ≤ bs.length :=
  (List.takeWhile_prefix _).length_le

theorem identifierLength_le (bs : List UInt8) : identifierLength bs ≤ bs.length :=
  (List.takeWhile_prefix _).length_le

theorem measure_le {block : List UInt8 → Nat} (hb : ∀ bs, block bs ≤ bs.length) (before : Option UInt8)
    (b : UInt8) (rest : List UInt8) : (measure block before b rest).2 ≤ rest.length := by
  unfold measure
  repeat' split
  all_goals try exact quotedLength_le _ _
  next => exact lineLength_le _
  next h =>
    have := hb (rest.drop 1)
    cases rest with
    | nil => simp at h
    | cons c rest => simp_all
  next h =>
    have := identifierLength_le (rest.drop 1)
    cases rest with
    | nil => simp at h
    | cons c rest => simp_all
  next => exact identifierLength_le _
  next => exact Nat.zero_le _

theorem lex_congr {block block' : List UInt8 → Nat} {before : Option UInt8} {bs : List UInt8}
    (h : ∀ cs, cs.length < bs.length → block cs = block' cs) : lex block before bs = lex block' before bs := by
  fun_induction lex block before bs with
  | case1 => rw [lex]
  | case2 before b rest kind extra hm text ih =>
    have inner : block (rest.drop 1) = block' (rest.drop 1) := by
      apply h
      simp only [List.length_cons, List.length_drop]
      omega
    have same : measure block' before b rest = (kind, extra) := by
      rw [← hm]
      unfold measure
      rw [inner]
    rw [lex, same, ih]
    intro cs shorter
    apply h
    simp only [List.length_cons, List.length_drop] at shorter ⊢
    omega

theorem scanned_eq_tokens {sql : String} (small : sql.utf8ByteSize < UInt32.size) : scanned sql = tokens sql := by
  apply lex_congr
  intro cs shorter
  apply wrappedLength_eq
  · decide
  · rw [Text.length_utf8] at shorter
    simp only [UInt32.toNat_one]
    omega

end TypedSql.Placeholder
