import TypedSql.Proofs.Placeholder.Lexing

namespace TypedSql.Placeholder

open Text

/-- How far something goes is settled by its own bytes and the one behind them. -/
def LooksAhead (length : List UInt8 → Nat) : Prop :=
  ∀ xs ys zs, length (xs ++ ys) = xs.length → zs.head? = ys.head? → length (xs ++ zs) = xs.length

theorem eq_nil_of_head? {ys zs : List UInt8} (h : zs.head? = ys.head?) (empty : ys = []) : zs = [] := by
  rw [empty] at h
  exact List.head?_eq_none_iff.mp h

theorem looksAhead_takeWhile (p : UInt8 → Bool) : LooksAhead fun bs => (bs.takeWhile p).length := by
  intro xs ys zs h same
  induction xs with
  | nil =>
    cases ys with
    | nil => simp [eq_nil_of_head? same rfl]
    | cons y ys =>
      cases zs with
      | nil => simp at same
      | cons z zs =>
        have equal : z = y := by simpa using same
        subst equal
        cases hp : p z <;> simp_all
  | cons x xs ih =>
    cases hp : p x with
    | false => simp [hp] at h
    | true =>
      simp only [List.cons_append, List.takeWhile_cons, hp, if_true, List.length_cons,
        Nat.add_right_cancel_iff] at h ⊢
      exact ih h

theorem looksAhead_lineLength : LooksAhead lineLength := looksAhead_takeWhile _

theorem looksAhead_identifierLength : LooksAhead identifierLength := looksAhead_takeWhile _

theorem quotedLength_pos (closing b : UInt8) (rest : List UInt8) : 0 < quotedLength closing (b :: rest) := by
  unfold quotedLength
  repeat' split
  all_goals omega

theorem looksAhead_quotedLength (closing : UInt8) : LooksAhead (quotedLength closing) := by
  intro xs ys zs h same
  fun_induction quotedLength closing xs with
  | case1 =>
    cases ys with
    | nil => rw [eq_nil_of_head? same rfl]; rfl
    | cons y ys =>
      have := quotedLength_pos closing y ys
      simp only [List.nil_append, List.length_nil] at h
      omega
  | case2 =>
    cases ys with
    | nil => rw [eq_nil_of_head? same rfl]; simp [quotedLength]
    | cons y ys =>
      cases zs with
      | nil => simp at same
      | cons z zs =>
        have equal : z = y := by simpa using same
        by_cases hy : y = closing
        · simp [quotedLength, hy] at h
        · simp [quotedLength, equal, hy]
  | case3 further ih =>
    simp only [List.cons_append, quotedLength, if_true, List.length_cons] at h ⊢
    have := ih (by omega)
    omega
  | case4 next further hn =>
    simp [quotedLength, hn] at h
  | case5 b rest hb ih =>
    simp only [List.cons_append, quotedLength_cons_of_ne hb, List.length_cons,
      Nat.add_right_cancel_iff] at h ⊢
    exact ih h

theorem wrappedLength_pos (depth : UInt32) (b : UInt8) (rest : List UInt8) :
    0 < wrappedLength depth (b :: rest) := by
  cases rest with
  | nil => exact Nat.one_pos
  | cons next further =>
    unfold wrappedLength
    repeat' split
    all_goals omega

theorem looksAhead_wrappedLength (depth : UInt32) : LooksAhead (wrappedLength depth) := by
  intro xs ys zs h same
  fun_induction wrappedLength depth xs with
  | case1 depth =>
    cases ys with
    | nil => rw [eq_nil_of_head? same rfl]; rfl
    | cons y ys =>
      have := wrappedLength_pos depth y ys
      simp only [List.nil_append, List.length_nil] at h
      omega
  | case2 depth b =>
    cases ys with
    | nil => rw [eq_nil_of_head? same rfl]; rfl
    | cons y ys =>
      have := wrappedLength_pos depth y ys
      simp only [List.cons_append, List.nil_append, wrappedLength, List.length_singleton] at h
      repeat' split at h
      all_goals omega
  | case3 depth b next further opens ih =>
    simp only [List.cons_append, wrappedLength, if_pos opens, List.length_cons] at h ⊢
    have := ih (by omega)
    omega
  | case4 b next further opens closes =>
    simp only [List.cons_append, wrappedLength, if_neg opens, if_pos closes, if_true, List.length_cons] at h ⊢
    exact h
  | case5 depth b next further opens closes more ih =>
    simp only [List.cons_append, wrappedLength, if_neg opens, if_pos closes, if_neg more,
      List.length_cons] at h ⊢
    have := ih (by omega)
    omega
  | case6 depth b next further opens closes ih =>
    simp only [List.cons_append, wrappedLength, if_neg opens, if_neg closes, List.length_cons] at h ih ⊢
    have := ih (by omega)
    omega

theorem blockLength_le (depth : Nat) (bs : List UInt8) : blockLength depth bs ≤ bs.length := by
  fun_induction blockLength depth bs <;> simp_all

theorem blockLength_pos (depth : Nat) (b : UInt8) (rest : List UInt8) :
    0 < blockLength (depth + 1) (b :: rest) := by
  cases rest with
  | nil => exact Nat.one_pos
  | cons next further =>
    unfold blockLength
    repeat' split
    all_goals omega

theorem looksAhead_blockLength (depth : Nat) : LooksAhead (blockLength depth) := by
  intro xs ys zs h same
  fun_induction blockLength depth xs with
  | case1 bs =>
    simp only [blockLength] at h ⊢
    exact h
  | case2 depth =>
    cases ys with
    | nil => rw [eq_nil_of_head? same rfl]; rfl
    | cons y ys =>
      have := blockLength_pos depth y ys
      simp only [List.nil_append, List.length_nil, Nat.succ_eq_add_one] at h
      omega
  | case3 depth b =>
    cases ys with
    | nil => rw [eq_nil_of_head? same rfl]; rfl
    | cons y ys =>
      have := blockLength_pos depth y ys
      simp only [List.cons_append, List.nil_append, blockLength, List.length_singleton] at h
      repeat' split at h
      all_goals omega
  | case4 depth b next further opens ih =>
    simp only [List.cons_append, blockLength, if_pos opens, List.length_cons] at h ⊢
    have := ih (by omega)
    omega
  | case5 depth b next further opens closes ih =>
    simp only [List.cons_append, blockLength, if_neg opens, if_pos closes, List.length_cons] at h ⊢
    have := ih (by omega)
    omega
  | case6 depth b next further opens closes ih =>
    simp only [List.cons_append, blockLength, if_neg opens, if_neg closes, List.length_cons] at h ih ⊢
    have := ih (by omega)
    omega

variable {block : List UInt8 → Nat} {before before' : Option UInt8} {b : UInt8} {kind : TokenKind}

theorem measure_before (context : b = '@'.toUInt8 → before'.any gluesMarker = before.any gluesMarker)
    (rest : List UInt8) : measure block before' b rest = measure block before b rest := by
  unfold measure
  by_cases marker : b = '@'.toUInt8
  · rw [context marker]
  · simp only [marker, false_and, if_false]

/-- A token is the same whatever follows it, as long as that begins as before. -/
theorem measure_append (hb : LooksAhead block) {xs ys zs : List UInt8} (same : zs.head? = ys.head?)
    (h : measure block before b (xs ++ ys) = (kind, xs.length)) :
    measure block before b (xs ++ zs) = (kind, xs.length) := by
  have head : (xs ++ zs).head? = (xs ++ ys).head? := by
    rw [List.head?_append, List.head?_append, same]
  unfold measure at h ⊢
  rw [head]
  split at h
  next quote =>
    obtain ⟨rfl, length⟩ := Prod.mk.inj h
    rw [if_pos quote, looksAhead_quotedLength _ _ _ _ length same]
  next single =>
  rw [if_neg single]
  split at h
  next quote =>
    obtain ⟨rfl, length⟩ := Prod.mk.inj h
    rw [if_pos quote, looksAhead_quotedLength _ _ _ _ length same]
  next double =>
  rw [if_neg double]
  split at h
  next quote =>
    obtain ⟨rfl, length⟩ := Prod.mk.inj h
    rw [if_pos quote, looksAhead_quotedLength _ _ _ _ length same]
  next bracket =>
  rw [if_neg bracket]
  split at h
  next opens =>
    obtain ⟨rfl, length⟩ := Prod.mk.inj h
    rw [if_pos opens, looksAhead_lineLength _ _ _ length same]
  next line =>
  rw [if_neg line]
  split at h
  next opens =>
    obtain ⟨rfl, length⟩ := Prod.mk.inj h
    rw [if_pos opens]
    cases xs with
    | nil => simp at length
    | cons x xs =>
      simp only [List.cons_append, List.drop_one, List.tail_cons, List.length_cons,
        Nat.add_right_cancel_iff] at length ⊢
      rw [hb _ _ _ length same]
  next comment =>
  rw [if_neg comment]
  split at h
  next twice =>
    obtain ⟨rfl, length⟩ := Prod.mk.inj h
    rw [if_pos twice]
    cases xs with
    | nil => simp at length
    | cons x xs =>
      simp only [List.cons_append, List.drop_one, List.tail_cons, List.length_cons,
        Nat.add_right_cancel_iff] at length ⊢
      rw [looksAhead_identifierLength _ _ _ length same]
  next system =>
  rw [if_neg system]
  split at h
  next named =>
    obtain ⟨rfl, length⟩ := Prod.mk.inj h
    have goes := looksAhead_identifierLength _ _ _ length same
    rw [if_pos ⟨named.1, named.2.1, by omega⟩, goes]
  next unnamed =>
    obtain ⟨rfl, length⟩ := Prod.mk.inj h
    have empty : xs = [] := List.eq_nil_of_length_eq_zero length.symm
    subst empty
    rw [if_neg]
    · rfl
    · intro named
      refine unnamed ⟨named.1, named.2.1, ?_⟩
      have stops : identifierLength ([] ++ ys) = 0 → identifierLength ([] ++ zs) = 0 :=
        fun none => looksAhead_identifierLength [] ys zs none same
      omega

/-- The token that comes out for a token. -/
def Token.substituted (bound : List String) (t : Token) : Token := { t with text := t.render bound }

theorem utf8_positional (position : Nat) :
    utf8 (positional position) = '@'.toUInt8 :: 'P'.toUInt8 :: utf8 (toString position) := by
  have whole : positional position = "@P" ++ toString position := rfl
  rw [whole, utf8_append]
  rfl

theorem isIdentifier_of_isDigit {c : Char} (h : c.isDigit = true) :
    ∀ b ∈ String.utf8EncodeChar c, isIdentifier b = true ∧ lowerByte b = b := by
  have small : c.toNat < 128 := by
    have bounds : 48 ≤ c.val ∧ c.val ≤ 57 := by simpa [Char.isDigit] using h
    have high : c.toNat ≤ 57 := UInt32.le_iff_toNat_le.mp bounds.2
    omega
  have all := forall_ascii (P := fun c => c.isDigit = true →
    (String.utf8EncodeChar c).all (fun b => isIdentifier b && lowerByte b = b) = true) (by decide) small h
  simpa only [List.all_eq_true, Bool.and_eq_true, decide_eq_true_eq] using all

theorem isIdentifier_of_mem_toString {n : Nat} :
    ∀ b ∈ utf8 (toString n), isIdentifier b = true ∧ lowerByte b = b := by
  intro b mem
  rw [utf8_eq_flatMap] at mem
  obtain ⟨c, there, byte⟩ := List.mem_flatMap.mp mem
  have digits : c ∈ Nat.toDigits 10 n := by
    rw [← Nat.toList_repr]
    exact there
  exact isIdentifier_of_isDigit (Nat.isDigit_of_mem_toDigits (by decide) (by decide) digits) b byte

theorem Token.kind_of_position? {bound : List String} {t : Token} {position : Nat}
    (h : t.position? bound = some position) : t.kind = .variable := by
  unfold Token.position? at h
  split at h
  next kind => exact kind
  next => simp at h

theorem measure_variable {rest : List UInt8} {extra : Nat}
    (h : measure block before b rest = (.variable, extra)) :
    b = '@'.toUInt8 ∧ before.any gluesMarker = false ∧ extra = identifierLength rest ∧ 0 < extra := by
  unfold measure at h
  repeat' split at h
  all_goals simp_all

theorem head?_drop_identifierLength (rest : List UInt8) :
    ((rest.drop (identifierLength rest)).head?).any isIdentifier = false := by
  induction rest with
  | nil => rfl
  | cons b rest ih =>
    cases hb : isIdentifier b with
    | true => simpa [identifierLength, List.takeWhile_cons, hb] using ih
    | false => simp [identifierLength, hb]

theorem identifierLength_append {word rest : List UInt8} (all : ∀ b ∈ word, isIdentifier b = true)
    (stops : rest.head?.any isIdentifier = false) : identifierLength (word ++ rest) = word.length := by
  unfold identifierLength
  rw [List.takeWhile_append_of_pos all, List.length_append]
  cases rest with
  | nil => rfl
  | cons b rest => simp_all

theorem measure_positional {position : Nat} {rest : List UInt8} (free : before.any gluesMarker = false)
    (stops : rest.head?.any isIdentifier = false) :
    measure block before '@'.toUInt8 ('P'.toUInt8 :: utf8 (toString position) ++ rest) =
      (.variable, ('P'.toUInt8 :: utf8 (toString position)).length) := by
  have length : identifierLength ('P'.toUInt8 :: utf8 (toString position) ++ rest) =
      ('P'.toUInt8 :: utf8 (toString position)).length := by
    apply identifierLength_append _ stops
    intro b mem
    rcases List.mem_cons.mp mem with rfl | mem
    · decide
    · exact (isIdentifier_of_mem_toString b mem).1
  have head : ('P'.toUInt8 :: utf8 (toString position) ++ rest).head? = some 'P'.toUInt8 := rfl
  unfold measure
  rw [length, head, if_neg (by decide), if_neg (by decide), if_neg (by decide), if_neg (by decide),
    if_neg (by decide), if_neg (by decide), if_pos ⟨rfl, free, Nat.succ_pos _⟩]

theorem lex_cons {text rest : List UInt8} (h : measure block before b (text ++ rest) = (kind, text.length)) :
    lex block before (b :: (text ++ rest)) = ⟨kind, b :: text⟩ :: lex block (b :: text).getLast? rest := by
  rw [lex, h]
  simp only [List.take_left, List.drop_left]

theorem head?_flatMap_render (block : List UInt8 → Nat) (before : Option UInt8) (bound : List String)
    (bs : List UInt8) : ((lex block before bs).flatMap (Token.render bound)).head? = bs.head? := by
  cases bs with
  | nil => simp [lex]
  | cons b rest =>
    generalize hm : measure block before b rest = found
    obtain ⟨kind, extra⟩ := found
    rw [lex, hm, List.flatMap_cons, List.head?_append, List.head?_cons]
    unfold Token.render
    split
    next position bound =>
      have variableKind : kind = .variable := Token.kind_of_position? bound
      rw [variableKind] at hm
      rw [utf8_positional, (measure_variable hm).1]
      rfl
    next => rfl

/-- What comes out for a text is cut where the text was cut. -/
theorem lex_flatMap_render (inside : ∀ bs, block bs ≤ bs.length) (hb : LooksAhead block) (bound : List String)
    (before before' : Option UInt8) (bs : List UInt8)
    (context : bs.head? = some '@'.toUInt8 → before'.any gluesMarker = before.any gluesMarker) :
    lex block before' ((lex block before bs).flatMap (Token.render bound)) =
      (lex block before bs).map (Token.substituted bound) := by
  fun_induction lex block before bs generalizing before' with
  | case1 => simp [lex]
  | case2 before b rest kind extra hm text ih =>
    have within := measure_le inside before b rest
    rw [hm] at within
    have same := head?_flatMap_render block text.getLast? bound (rest.drop extra)
    generalize lex block text.getLast? (rest.drop extra) = later at ih same
    rw [List.flatMap_cons, List.map_cons]
    have again : measure block before' b rest = (kind, extra) := by
      rw [measure_before (fun marker => context (by rw [marker]; rfl)), hm]
    cases place : Token.position? bound ⟨kind, text⟩ with
    | none =>
      have kept : Token.substituted bound ⟨kind, text⟩ = ⟨kind, text⟩ := by
        simp only [Token.substituted, Token.render_of_unbound place]
      have cut : measure block before' b (rest.take extra ++ later.flatMap (Token.render bound)) =
          (kind, (rest.take extra).length) := by
        apply measure_append hb same
        rw [List.take_append_drop, again, List.length_take, Nat.min_eq_left within]
      rw [kept, Token.render_of_unbound place]
      simp only [text, List.cons_append]
      rw [lex_cons cut, ih _ fun _ => rfl]
    | some position =>
      have variableKind : kind = .variable := Token.kind_of_position? place
      subst variableKind
      obtain ⟨marker, free, length, _⟩ := measure_variable again
      have stops : (later.flatMap (Token.render bound)).head?.any isIdentifier = false := by
        rw [same, length]
        exact head?_drop_identifierLength rest
      have moved : Token.substituted bound ⟨.variable, text⟩ = ⟨.variable, utf8 (positional position)⟩ := by
        simp only [Token.substituted, Token.render_of_position place]
      rw [moved, Token.render_of_position place, utf8_positional, List.cons_append,
        lex_cons (measure_positional free stops), ih]
      -- Behind a variable there is no marker, so it does not matter what the variable ends in.
      intro next
      rw [length] at next
      have := head?_drop_identifierLength rest
      rw [next] at this
      simp [isIdentifier] at this

theorem scanned_substitute (sql : String) (bound : List String) :
    scanned (substitute sql bound) = (scanned sql).map (Token.substituted bound) := by
  have text := (substitute?_spec sql bound).1
  unfold scanned at text ⊢
  rw [text]
  exact lex_flatMap_render (wrappedLength_le 1) (looksAhead_wrappedLength 1) bound none none _ fun _ => rfl

/-- What comes out may be longer than what went in, but no comment in it nests deeper. -/
theorem scanned_substitute_eq_tokens {sql : String} (small : sql.utf8ByteSize < UInt32.size) (bound : List String) :
    scanned (substitute sql bound) = tokens (substitute sql bound) := by
  have text := (substitute?_spec sql bound).1
  rw [scanned_eq_tokens small] at text
  rw [scanned_substitute, scanned_eq_tokens small]
  unfold tokens at text ⊢
  rw [text]
  symm
  exact lex_flatMap_render (blockLength_le 1) (looksAhead_blockLength 1) bound none none _ fun _ => rfl

end TypedSql.Placeholder
