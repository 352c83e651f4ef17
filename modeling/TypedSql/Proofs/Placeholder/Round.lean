import TypedSql.Proofs.Placeholder.Boundary

namespace TypedSql.Placeholder

open Text

/-- How many of the bytes ahead still belong to the token that a region is in. -/
def Region.extent : Region → List UInt8 → Nat
  | .plain, _ => 0
  | .quoted quote, bs => quotedLength quote.closing bs
  | .lineComment, bs => lineLength bs
  | .blockComment depth, bs => wrappedLength depth bs

theorem Region.extent_le (region : Region) (bs : List UInt8) : region.extent bs ≤ bs.length := by
  cases region with
  | plain => exact Nat.zero_le _
  | quoted quote => exact quotedLength_le _ _
  | lineComment => exact lineLength_le _
  | blockComment depth => exact wrappedLength_le _ _

def lexAt (bs : List UInt8) (index : Nat) : List Token :=
  lex (wrappedLength 1) (bs.take index).getLast? (bs.drop index)

def measureAt (bs : List UInt8) (index : Nat) (b : UInt8) (rest : List UInt8) : TokenKind × Nat :=
  measure (wrappedLength 1) (bs.take index).getLast? b rest

theorem measureAt_le (bs : List UInt8) (index : Nat) (b : UInt8) (rest : List UInt8) :
    (measureAt bs index b rest).2 ≤ rest.length := measure_le (wrappedLength_le 1) _ _ _

theorem lexAt_cons {bs rest : List UInt8} {b : UInt8} {index extra : Nat} {kind : TokenKind}
    (h : bs.drop index = b :: rest)
    (hm : measureAt bs index b rest = (kind, extra)) :
    lexAt bs index = ⟨kind, b :: rest.take extra⟩ :: lexAt bs (index + 1 + extra) := by
  have cut : bs.take (index + 1 + extra) = bs.take index ++ b :: rest.take extra := by
    rw [Nat.add_assoc, List.take_add, h, Nat.add_comm 1 extra, List.take_succ_cons]
  have last : (bs.take (index + 1 + extra)).getLast? = (b :: rest.take extra).getLast? := by
    rw [cut, List.getLast?_append, List.getLast?_cons, Option.some_or]
  unfold measureAt at hm
  unfold lexAt
  rw [h, lex, hm, last, drop_of_drop h]

/-- What comes of a copy that reaches up to `copied` when no token begins before `index`: the text,
and whether anything was replaced in it. -/
def pending (bs : List UInt8) (bound : List String) (output? : Option String) (copied index : Nat) :
    List UInt8 × Bool :=
  (utf8 (output?.getD "") ++ (bs.drop copied).take (index - copied) ++
      (lexAt bs index).flatMap (Token.render bound),
    output?.isSome || (lexAt bs index).any fun t => (t.position? bound).isSome)

theorem take_drop_append {bs : List UInt8} {first middle last : Nat} (hf : first ≤ middle)
    (hm : middle ≤ last) :
    (bs.drop first).take (middle - first) ++ (bs.drop middle).take (last - middle) =
      (bs.drop first).take (last - first) := by
  have hd : bs.drop middle = (bs.drop first).drop (middle - first) := by
    rw [List.drop_drop]
    congr 1
    omega
  have hn : last - first = (middle - first) + (last - middle) := by omega
  rw [hd, hn, List.take_add]

variable {bs rest : List UInt8} {bound : List String} {output? : Option String}
  {copied index extra : Nat} {b : UInt8} {kind : TokenKind}

theorem pending_of_unbound (h : bs.drop index = b :: rest)
    (hm : measureAt bs index b rest = (kind, extra)) (hc : copied ≤ index)
    (hp : Token.position? bound ⟨kind, b :: rest.take extra⟩ = none) :
    pending bs bound output? copied index = pending bs bound output? copied (index + 1 + extra) := by
  have text : (bs.drop index).take (index + 1 + extra - index) = b :: rest.take extra := by
    rw [h, show index + 1 + extra - index = extra + 1 by omega, List.take_succ_cons]
  unfold pending
  rw [lexAt_cons h hm, ← take_drop_append hc (show index ≤ index + 1 + extra by omega), text]
  simp [Token.render_of_unbound hp, hp]

theorem pending_of_bound {position : Nat} {output : String} (h : bs.drop index = b :: rest)
    (hm : measureAt bs index b rest = (kind, extra))
    (hp : Token.position? bound ⟨kind, b :: rest.take extra⟩ = some position)
    (ho : utf8 output = utf8 (output?.getD "") ++ (bs.drop copied).take (index - copied) ++
      utf8 (positional position)) :
    pending bs bound output? copied index =
      pending bs bound (some output) (index + 1 + extra) (index + 1 + extra) := by
  unfold pending
  rw [lexAt_cons h hm]
  simp [Token.render_of_position hp, hp, ho]

namespace Scan

/-- The first place from the scan on where a token begins. -/
def resume (s : Scan) (bs : List UInt8) : Nat := s.index + s.region.extent (bs.drop s.index)

/-- What every round of the scan keeps. -/
structure Sound (sql : String) (s : Scan) : Prop where
  copied_le : s.copied ≤ s.index
  index_le : s.index ≤ (utf8 sql).length
  boundary : String.Pos.Raw.IsValid sql ⟨s.copied⟩

theorem resume_quotedStep {sql : String} {s : Scan} {quote : Quote}
    (hr : s.region = .quoted quote) (h : (utf8 sql).drop s.index = b :: rest) :
    (s.step sql bound b).resume (utf8 sql) = s.resume (utf8 sql) := by
  have next : byte? sql (s.index + 1) = rest.head? := by
    rw [byte?_eq, ← List.head?_drop, drop_of_drop h 0, List.drop_zero]
  simp only [resume, step, hr, quotedStep, next, h, Region.extent]
  by_cases hb : b = quote.closing
  · cases rest with
    | nil => simp [hb, quotedLength]
    | cons c further =>
      by_cases hc : c = quote.closing
      · have hd : (utf8 sql).drop (s.index + 1 + 1) = further := drop_of_drop h 1
        simp [hb, hc, quotedLength, hd]
        omega
      · simp [hb, hc, quotedLength]
  · have hd : (utf8 sql).drop (s.index + 1) = rest := drop_of_drop h 0
    simp only [if_neg hb, hr, hd, quotedLength_cons_of_ne hb]
    omega

theorem resume_blockCommentStep {sql : String} {s : Scan} {depth : UInt32}
    (hr : s.region = .blockComment depth) (h : (utf8 sql).drop s.index = b :: rest) :
    (s.step sql bound b).resume (utf8 sql) = s.resume (utf8 sql) := by
  have opens := pairAt_of_drop h '/' '*'
  have closes := pairAt_of_drop h '*' '/'
  have stays : (utf8 sql).drop (s.index + 1) = rest := drop_of_drop h 0
  simp only [resume, step, hr, blockCommentStep, opens, closes, h, Region.extent]
  cases rest with
  | nil => simp [hr, stays, wrappedLength]
  | cons c further =>
    have past : (utf8 sql).drop (s.index + 1 + 1) = further := drop_of_drop h 1
    simp only [List.head?_cons, Option.some.injEq]
    by_cases deeper : b = '/'.toUInt8 ∧ c = '*'.toUInt8
    · simp only [if_pos deeper, past, wrappedLength]
      omega
    · by_cases higher : b = '*'.toUInt8 ∧ c = '/'.toUInt8
      · by_cases one : depth = 1
        · simp only [if_neg deeper, if_pos higher, if_pos one, wrappedLength]
        · simp only [if_neg deeper, if_pos higher, if_neg one, past, wrappedLength]
          omega
      · simp only [if_neg deeper, if_neg higher, hr, stays, wrappedLength]
        omega

/-- A round in plain text reads a token or enters one, and replaces it if it is a bound variable. -/
structure PlainRound (sql : String) (bound : List String) (s next : Scan) (kind : TokenKind)
    (text : List UInt8) : Prop where
  resume_eq : next.resume (utf8 sql) = s.index + text.length
  copy_eq :
    Token.position? bound ⟨kind, text⟩ = none ∧ next.output? = s.output? ∧ next.copied = s.copied ∨
    ∃ position, Token.position? bound ⟨kind, text⟩ = some position ∧
      next.output? =
        some (s.output?.getD "" ++ slice sql s.copied s.index ++ positional position) ∧
      next.copied = s.index + text.length ∧ next.index = s.index + text.length ∧
      String.Pos.Raw.IsValid sql ⟨s.index⟩ ∧ String.Pos.Raw.IsValid sql ⟨next.copied⟩

theorem PlainRound.of_not_variable {sql : String} {s : Scan} {text : List UInt8} {region : Region}
    {index : Nat} (hk : kind ≠ .variable)
    (reaches : index + region.extent ((utf8 sql).drop index) = s.index + text.length) :
    PlainRound sql bound s { s with region := region, index := index } kind text where
  resume_eq := reaches
  copy_eq := Or.inl ⟨by simp only [Token.position?, if_neg hk], rfl, rfl⟩

theorem position?_slice {sql : String} {first last : Nat}
    (hf : String.Pos.Raw.IsValid sql ⟨first⟩) (hl : String.Pos.Raw.IsValid sql ⟨last⟩) :
    Placeholder.position? bound (slice sql first last) =
      Token.position? bound ⟨.variable, ((utf8 sql).drop first).take (last - first)⟩ := by
  have same : (fun name => Name.sameIgnoringCase name (slice sql first last)) =
      fun name => decide ((utf8 name).map lowerByte = (utf8 (slice sql first last)).map lowerByte) := by
    funext name
    rw [Bool.eq_iff_iff, sameIgnoringCase_iff, decide_eq_true_iff]
  simp only [Placeholder.position?, Token.position?, if_true, same, utf8_slice hf hl]

theorem PlainRound.of_variable {sql : String} {s : Scan} (h : (utf8 sql).drop s.index = b :: rest)
    (hr : s.region = .plain) (marker : b = '@'.toUInt8) (named : 0 < identifierLength rest) :
    let last := s.index + 1 + identifierLength rest
    PlainRound sql bound s { s.pastVariable sql bound last with index := last - 1 + 1 } .variable
      (b :: rest.take (identifierLength rest)) := by
  intro last
  have room := length_of_drop h
  have inside := identifierLength_le rest
  have ends : identifierEnd sql (s.index + 1) = last := by
    rw [identifierEnd_eq, show (utf8 sql).drop (s.index + 1) = rest from drop_of_drop h 0]
  have validFirst : String.Pos.Raw.IsValid sql ⟨s.index⟩ :=
    isValid_of_ascii (getElem?_of_drop h) (by rw [marker]; decide)
  have validLast : String.Pos.Raw.IsValid sql ⟨last⟩ := ends ▸ isValid_identifierEnd (by omega)
  have text : ((utf8 sql).drop s.index).take (last - s.index) =
      b :: rest.take (identifierLength rest) := by
    rw [h, show last - s.index = identifierLength rest + 1 by omega, List.take_succ_cons]
  have length : (b :: rest.take (identifierLength rest)).length = last - s.index := by
    rw [List.length_cons, List.length_take]
    omega
  have found : Placeholder.position? bound (slice sql s.index last) = _ :=
    position?_slice validFirst validLast
  rw [text] at found
  have hlast : last - 1 + 1 = last := by omega
  have hsum : s.index + (last - s.index) = last := by omega
  simp only [pastVariable, found, hlast]
  cases hp : Token.position? bound ⟨.variable, b :: rest.take (identifierLength rest)⟩ with
  | none =>
    refine ⟨?_, Or.inl ⟨hp, rfl, rfl⟩⟩
    simp only [resume, hr, Region.extent, length, hsum, Nat.add_zero]
  | some position =>
    refine ⟨?_, Or.inr ⟨position, hp, rfl, ?_, ?_, validFirst, validLast⟩⟩
    · simp only [replace, resume, hr, Region.extent, length, hsum, Nat.add_zero]
    · simp only [replace, length, hsum]
    · simp only [length, hsum]

theorem plainRound {sql : String} {s : Scan} (hr : s.region = .plain)
    (h : (utf8 sql).drop s.index = b :: rest) {kind : TokenKind} {extra : Nat}
    (hm : measureAt (utf8 sql) s.index b rest = (kind, extra)) :
    PlainRound sql bound s (s.step sql bound b) kind (b :: rest.take extra) := by
  have room := length_of_drop h
  have inside : extra ≤ rest.length := by
    have := measureAt_le (utf8 sql) s.index b rest
    rwa [hm] at this
  have length : (b :: rest.take extra).length = extra + 1 := by
    rw [List.length_cons, List.length_take, Nat.min_eq_left inside]
  have one : (utf8 sql).drop (s.index + 1) = rest := drop_of_drop h 0
  have two : (utf8 sql).drop (s.index + 1 + 1) = rest.drop 1 := drop_of_drop h 1
  have glued := followsIdentifier_eq sql s.index (by omega)
  have ends := identifierEnd?_eq sql
  simp only [measureAt, measure] at hm
  simp only [step, hr, plainStep, pairAt_of_drop h, glued, ends, one, two]
  -- The cases come in the order in which `measure` looks at the byte.
  by_cases single : b = '\''.toUInt8
  · simp only [if_pos single] at hm ⊢
    obtain ⟨rfl, rfl⟩ := Prod.mk.inj hm
    apply PlainRound.of_not_variable (by simp)
    simp only [Region.extent, one, length]
    omega
  simp only [if_neg single] at hm ⊢
  by_cases double : b = '"'.toUInt8
  · simp only [if_pos double] at hm ⊢
    obtain ⟨rfl, rfl⟩ := Prod.mk.inj hm
    apply PlainRound.of_not_variable (by simp)
    simp only [Region.extent, one, length]
    omega
  simp only [if_neg double] at hm ⊢
  by_cases bracket : b = '['.toUInt8
  · simp only [if_pos bracket] at hm ⊢
    obtain ⟨rfl, rfl⟩ := Prod.mk.inj hm
    apply PlainRound.of_not_variable (by simp)
    simp only [Region.extent, one, length]
    omega
  simp only [if_neg bracket] at hm ⊢
  by_cases line : b = '-'.toUInt8 ∧ rest.head? = some '-'.toUInt8
  · simp only [if_pos line] at hm ⊢
    obtain ⟨rfl, rfl⟩ := Prod.mk.inj hm
    apply PlainRound.of_not_variable (by simp)
    simp only [Region.extent, one, length]
    omega
  simp only [if_neg line] at hm ⊢
  by_cases block : b = '/'.toUInt8 ∧ rest.head? = some '*'.toUInt8
  · simp only [if_pos block] at hm ⊢
    obtain ⟨rfl, rfl⟩ := Prod.mk.inj hm
    apply PlainRound.of_not_variable (by simp)
    simp only [Region.extent, two, length]
    omega
  simp only [if_neg block] at hm ⊢
  by_cases system : b = '@'.toUInt8 ∧ rest.head? = some '@'.toUInt8
  · simp only [if_pos system] at hm ⊢
    obtain ⟨rfl, rfl⟩ := Prod.mk.inj hm
    apply PlainRound.of_not_variable (by simp)
    simp only [Region.extent, length]
    split
    next => simp only [Option.getD_some]; omega
    next => simp only [Option.getD_none]; omega
  simp only [if_neg system] at hm ⊢
  by_cases variable' : b = '@'.toUInt8 ∧
      ((utf8 sql).take s.index).getLast?.any gluesMarker = false ∧ 0 < identifierLength rest
  · obtain ⟨marker, free, named⟩ := variable'
    simp only [if_pos (And.intro marker (And.intro free named))] at hm
    obtain ⟨rfl, rfl⟩ := Prod.mk.inj hm
    simp only [decide_eq_true marker, free, if_pos named, Bool.not_false, Bool.and_true, if_true]
    exact PlainRound.of_variable h hr marker named
  · simp only [if_neg variable'] at hm
    obtain ⟨rfl, rfl⟩ := Prod.mk.inj hm
    have other : PlainRound sql bound s { s with index := s.index + 1 } .other (b :: rest.take 0) := by
      apply PlainRound.of_not_variable (by simp)
      simp only [hr, Region.extent, length]
    split
    next free =>
      rw [Bool.and_eq_true, decide_eq_true_iff, Bool.not_eq_true'] at free
      simp only [if_neg fun named => variable' ⟨free.1, free.2, named⟩]
      exact other
    next => exact other

theorem step_copy {sql : String} {s : Scan} (hr : s.region ≠ .plain) (b : UInt8) :
    (s.step sql bound b).output? = s.output? ∧ (s.step sql bound b).copied = s.copied := by
  unfold step
  cases region : s.region with
  | plain => exact absurd region hr
  | quoted quote =>
    simp only [quotedStep]
    repeat' split
    all_goals exact ⟨rfl, rfl⟩
  | lineComment =>
    simp only [lineCommentStep]
    split
    all_goals exact ⟨rfl, rfl⟩
  | blockComment depth =>
    simp only [blockCommentStep]
    repeat' split
    all_goals exact ⟨rfl, rfl⟩

theorem resume_le {sql : String} {s : Scan} (h : s.index ≤ (utf8 sql).length) :
    s.resume (utf8 sql) ≤ (utf8 sql).length := by
  have := s.region.extent_le ((utf8 sql).drop s.index)
  rw [List.length_drop] at this
  unfold resume
  omega

theorem index_le_resume (s : Scan) (bs : List UInt8) : s.index ≤ s.resume bs := Nat.le_add_right _ _

theorem resume_lineCommentStep {sql : String} {s : Scan} (hr : s.region = .lineComment)
    (h : (utf8 sql).drop s.index = b :: rest) (hb : b ≠ '\n'.toUInt8) :
    (s.step sql bound b).resume (utf8 sql) = s.resume (utf8 sql) := by
  have stays : (utf8 sql).drop (s.index + 1) = rest := drop_of_drop h 0
  simp only [resume, step, hr, lineCommentStep, if_neg hb, h, Region.extent, stays, lineLength,
    List.takeWhile_cons, decide_eq_true hb, if_true, List.length_cons]
  omega

end Scan

end TypedSql.Placeholder
