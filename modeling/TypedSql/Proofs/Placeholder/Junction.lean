import TypedSql.Proofs.Placeholder.Recut

namespace TypedSql.Placeholder

open Text

/-- Two bytes that may belong to one token where they stand side by side, or the second of which reads
differently behind the first. -/
def joins (a b : UInt8) : Bool :=
  (isIdentifier a && isIdentifier b) || (a = '.'.toUInt8 && b = '@'.toUInt8) ||
    (a = '-'.toUInt8 && b = '-'.toUInt8) || (a = '/'.toUInt8 && b = '*'.toUInt8) ||
    (a = '*'.toUInt8 && b = '/'.toUInt8) || (a = '\''.toUInt8 && b = '\''.toUInt8) ||
    (a = '"'.toUInt8 && b = '"'.toUInt8) || (a = ']'.toUInt8 && b = ']'.toUInt8)

/-- Where a fragment is put behind a text, no two bytes come together that join. -/
def Unjoined (sql fragment : String) : Prop :=
  ∀ a ∈ (utf8 sql).getLast?, ∀ b ∈ (utf8 fragment).head?, joins a b = false

/-- The scan of a text ends outside every quoted region and every comment. -/
def Closed (sql : String) : Prop := (Scan.run sql [] {}).region = .plain

instance (sql : String) : Decidable (Closed sql) := inferInstanceAs (Decidable (_ = _))

variable {sql fragment : String} {index : Nat} {a b : UInt8} {rest : List UInt8}

theorem getLast?_of_drop {bs : List UInt8} (h : bs.drop index = a :: rest) :
    bs.getLast? = (a :: rest).getLast? := by
  rw [← List.take_append_drop index bs, h, List.getLast?_append, List.getLast?_cons, Option.some_or]

theorem drop_append_of_drop (h : (utf8 sql).drop index = a :: rest) (fragment : String) :
    (utf8 (sql ++ fragment)).drop index = a :: (rest ++ utf8 fragment) := by
  have room := length_of_drop h
  rw [utf8_append, List.drop_append_of_le_length (by omega), h, List.cons_append]

theorem followsIdentifier_append (h : (utf8 sql).drop index = a :: rest) (fragment : String) :
    followsIdentifier (sql ++ fragment) index = followsIdentifier sql index := by
  have room := length_of_drop h
  have longer : index ≤ (utf8 (sql ++ fragment)).length := by
    rw [utf8_append, List.length_append]
    omega
  rw [followsIdentifier_eq _ _ longer, followsIdentifier_eq _ _ (by omega), utf8_append,
    List.take_append_of_le_length (by omega)]

theorem byte?_succ (h : (utf8 sql).drop index = a :: rest) : byte? sql (index + 1) = rest.head? := by
  rw [byte?_eq, ← List.head?_drop, drop_of_drop h 0, List.drop_zero]

namespace Unjoined

theorem head?_append (apart : Unjoined sql fragment) (h : (utf8 sql).drop index = a :: rest)
    (joined : joins a b = true) : (rest ++ utf8 fragment).head? = some b ↔ rest.head? = some b := by
  cases rest with
  | cons c further => simp
  | nil =>
    have last : (utf8 sql).getLast? = some a := by rw [getLast?_of_drop h]; rfl
    rw [List.nil_append]
    constructor
    · intro next
      have := apart a last b next
      rw [joined] at this
      cases this
    · intro next
      cases next

theorem pairAt_append (apart : Unjoined sql fragment) (h : (utf8 sql).drop index = a :: rest) {first second : Char}
    (joined : joins first.toUInt8 second.toUInt8 = true) :
    pairAt (sql ++ fragment) index first second = pairAt sql index first second := by
  rw [Bool.eq_iff_iff, pairAt_of_drop h, pairAt_of_drop (drop_append_of_drop h fragment)]
  refine and_congr_right fun same => ?_
  exact apart.head?_append h (same ▸ joined)

/-- An identifier does not go on past the end of the text. -/
theorem identifierLength_append (apart : Unjoined sql fragment) (h : (utf8 sql).drop index = a :: rest)
    (identifier : isIdentifier a = true) :
    identifierLength (rest ++ utf8 fragment) = identifierLength rest := by
  unfold identifierLength
  rw [List.takeWhile_append]
  split
  next whole =>
    have all : ∀ c ∈ rest, isIdentifier c = true := by
      rw [← (List.takeWhile_prefix isIdentifier).eq_of_length whole]
      exact List.all_eq_true.mp List.all_takeWhile
    have stops : (utf8 fragment).takeWhile isIdentifier = [] := by
      cases next : utf8 fragment with
      | nil => rfl
      | cons c further =>
        obtain ⟨last, ends⟩ : ∃ last, (a :: rest).getLast? = some last := ⟨_, List.getLast?_cons⟩
        have own : isIdentifier last = true := by
          rcases List.mem_cons.mp (List.mem_of_getLast? ends) with rfl | mem
          · exact identifier
          · exact all last mem
        have apart := apart last (by rw [getLast?_of_drop h]; exact ends) c (by rw [next]; rfl)
        have other : isIdentifier c = false := by
          cases ident : isIdentifier c with
          | false => rfl
          | true => simp [joins, own, ident] at apart
        exact List.takeWhile_cons_of_neg (by simp [other])
    rw [stops, List.append_nil, whole]
  next => rfl

theorem identifierEnd?_append (apart : Unjoined sql fragment) (h : (utf8 sql).drop index = a :: rest)
    (identifier : isIdentifier a = true) :
    identifierEnd? (sql ++ fragment) (index + 1) = identifierEnd? sql (index + 1) := by
  have whole := drop_of_drop (drop_append_of_drop h fragment) 0
  have own := drop_of_drop h 0
  rw [Nat.add_zero, List.drop_zero] at whole own
  rw [identifierEnd?_eq, identifierEnd?_eq, whole, own, apart.identifierLength_append h identifier]

/-- Up to the end of the text a round of the scan is the same with a fragment behind it. -/
theorem step_append (apart : Unjoined sql fragment) {s : Scan} (h : (utf8 sql).drop s.index = b :: rest) :
    s.step (sql ++ fragment) [] b = s.step sql [] b := by
  unfold Scan.step
  cases s.region with
  | lineComment => rfl
  | blockComment depth =>
    have opens := apart.pairAt_append h (show joins '/'.toUInt8 '*'.toUInt8 = true by decide)
    have closes := apart.pairAt_append h (show joins '*'.toUInt8 '/'.toUInt8 = true by decide)
    simp only [Scan.blockCommentStep, opens, closes]
  | quoted quote =>
    simp only [Scan.quotedStep, byte?_succ h, byte?_succ (drop_append_of_drop h fragment)]
    by_cases closing : b = quote.closing
    · have joined : joins b quote.closing = true := by
        rw [closing]
        cases quote <;> decide
      simp only [apart.head?_append h joined]
    · simp only [if_neg closing]
  | plain =>
    have line := apart.pairAt_append h (show joins '-'.toUInt8 '-'.toUInt8 = true by decide)
    have block := apart.pairAt_append h (show joins '/'.toUInt8 '*'.toUInt8 = true by decide)
    have system := apart.pairAt_append h (show joins '@'.toUInt8 '@'.toUInt8 = true by decide)
    have beyond : pairAt sql s.index '@' '@' = true →
        identifierEnd? (sql ++ fragment) (s.index + 2) = identifierEnd? sql (s.index + 2) := by
      intro twice
      obtain ⟨further, same⟩ := List.head?_eq_some_iff.mp ((pairAt_of_drop h '@' '@').mp twice).2
      have second : (utf8 sql).drop (s.index + 1) = '@'.toUInt8 :: further := by
        rw [← same]
        exact drop_of_drop h 0
      exact apart.identifierEnd?_append second (by decide)
    have behind : b = '@'.toUInt8 →
        identifierEnd? (sql ++ fragment) (s.index + 1) = identifierEnd? sql (s.index + 1) :=
      fun marker => apart.identifierEnd?_append h (by rw [marker]; decide)
    have past : ∀ last, s.pastVariable (sql ++ fragment) [] last = s.pastVariable sql [] last := fun _ => rfl
    simp only [Scan.plainStep, line, block, system, followsIdentifier_append h, past]
    by_cases twice : pairAt sql s.index '@' '@' = true
    · simp only [twice, if_true, beyond twice]
    · by_cases marker : b = '@'.toUInt8
      · simp only [if_neg twice, behind marker]
      · simp only [marker, decide_false, Bool.false_and, Bool.false_eq_true, if_false, if_neg twice]

end Unjoined

/-! Whoever scans a text with a fragment behind it comes past the end of the text where a token begins. -/

theorem suffix_step (s : Scan) (bound : List String) (h : (utf8 sql).drop s.index = b :: rest) :
    lexAt (utf8 sql) ((s.step sql bound b).resume (utf8 sql)) <:+ lexAt (utf8 sql) (s.resume (utf8 sql)) := by
  rcases Scan.round_cases s bound h with ⟨resume, _⟩ | ⟨start, kind, extra, hm, round⟩
  · exact resume ▸ List.suffix_refl _
  · rw [start, round.resume_eq, Scan.length_of_measureAt hm, ← Nat.add_assoc, lexAt_cons h hm]
    exact List.suffix_cons _ _

theorem Unjoined.suffix_run (apart : Unjoined sql fragment) (s : Scan) :
    lexAt (utf8 (sql ++ fragment)) ((Scan.run sql [] s).resume (utf8 (sql ++ fragment))) <:+
      lexAt (utf8 (sql ++ fragment)) (s.resume (utf8 (sql ++ fragment))) := by
  fun_induction Scan.run sql [] s with
  | case1 s h ih =>
    have here := Scan.drop_of_lt h
    have step := suffix_step s [] (drop_append_of_drop here fragment)
    rw [apart.step_append here] at step
    exact ih.trans step
  | case2 => exact List.suffix_refl _

theorem Closed.suffix (closed : Closed sql) (apart : Unjoined sql fragment) :
    lexAt (utf8 (sql ++ fragment)) (utf8 sql).length <:+ scanned (sql ++ fragment) := by
  have index : (Scan.run sql [] {}).index = (utf8 sql).length := by rw [Scan.index_run, length_utf8]
  have resume : (Scan.run sql [] {}).resume (utf8 (sql ++ fragment)) = (utf8 sql).length := by
    have outside : (Scan.run sql [] {}).region = .plain := closed
    simp only [Scan.resume, outside, Region.extent, Nat.add_zero, index]
  have whole := apart.suffix_run {}
  rwa [resume] at whole

/-! What is cut off from a text with a fragment behind it is what the text alone is cut into. -/

variable {block : List UInt8 → Nat} {before before' : Option UInt8} {kind : TokenKind} {bs xs ys zs : List UInt8}
  {ts us : List Token}

theorem identifierLength_pos_iff : 0 < identifierLength xs ↔ xs.head?.any isIdentifier = true := by
  cases xs with
  | nil => simp [identifierLength]
  | cons c further => cases hc : isIdentifier c <;> simp [identifierLength, hc]

theorem measure_kind_eq (same : ys.head? = xs.head?) :
    (measure block before b ys).1 = (measure block before b xs).1 := by
  unfold measure
  simp only [identifierLength_pos_iff, same]
  repeat' split
  all_goals rfl

theorem kind_of_measure_zero {c : UInt8} (h : measure block before b (c :: xs) = (kind, 0)) :
    measure block before b [] = (kind, 0) := by
  have opened := fun closing => Nat.ne_of_gt (quotedLength_pos closing c xs)
  unfold measure at h
  split at h
  next => exact absurd (Prod.mk.inj h).2 (opened _)
  next single =>
  split at h
  next => exact absurd (Prod.mk.inj h).2 (opened _)
  next double =>
  split at h
  next => exact absurd (Prod.mk.inj h).2 (opened _)
  next bracket =>
  have dash : '-'.toUInt8 ≠ '\n'.toUInt8 := by decide
  have other : kind = .other := by
    repeat' split at h
    all_goals simp_all [lineLength]
  unfold measure
  rw [other, if_neg single, if_neg double, if_neg bracket]
  simp [identifierLength]

theorem measure_of_append (inside : ∀ bs, block bs ≤ bs.length) (hb : LooksAhead block)
    (h : measure block before b (xs ++ ys) = (kind, xs.length)) :
    measure block before b xs = (kind, xs.length) := by
  have within := measure_le inside before b xs
  generalize found : measure block before b xs = own at within
  obtain ⟨kind', extra⟩ := own
  have whole : extra = xs.length := by
    refine Nat.le_antisymm within (Nat.le_of_not_lt fun short => ?_)
    have ahead : (xs.drop extra ++ ys).head? = (xs.drop extra).head? := by
      cases left : xs.drop extra with
      | nil =>
        have := List.drop_eq_nil_iff.mp left
        omega
      | cons c further => rfl
    have length : (xs.take extra).length = extra := by
      rw [List.length_take]
      omega
    have cut : measure block before b (xs.take extra ++ xs.drop extra) = (kind', (xs.take extra).length) := by
      rw [List.take_append_drop, found, length]
    have longer := measure_append hb ahead cut
    rw [← List.append_assoc, List.take_append_drop, h, length] at longer
    exact Nat.ne_of_gt short (Prod.mk.inj longer).2
  cases xs with
  | cons c further =>
    have kinds : kind = kind' := by
      have same : (measure block before b (c :: further ++ ys)).1 = (measure block before b (c :: further)).1 :=
        measure_kind_eq rfl
      rwa [h, found] at same
    rw [kinds, whole]
  | nil =>
    cases ys with
    | nil => exact found.symm.trans h
    | cons c further => exact found.symm.trans (kind_of_measure_zero h)

theorem measure_of_append_append (inside : ∀ bs, block bs ≤ bs.length) (hb : LooksAhead block)
    (h : measure block before b (xs ++ (zs ++ ys)) = (kind, xs.length)) :
    measure block before b (xs ++ zs) = (kind, xs.length) := by
  cases zs with
  | nil =>
    rw [List.append_nil]
    exact measure_of_append inside hb h
  | cons c further => exact measure_append hb (by rfl) h

theorem lex_of_append (inside : ∀ bs, block bs ≤ bs.length) (hb : LooksAhead block)
    (cut : lex block before (xs ++ ys) = ts ++ us) (text : ts.flatMap (·.text) = xs) :
    lex block before xs = ts := by
  induction ts generalizing before xs with
  | nil =>
    rw [← text, List.flatMap_nil, lex]
  | cons t ts ih =>
    rw [List.flatMap_cons] at text
    generalize later : ts.flatMap (·.text) = zs at text ih
    cases whole : xs ++ ys with
    | nil => simp [whole, lex] at cut
    | cons b rest =>
      generalize hm : measure block before b rest = found at cut
      obtain ⟨kind, extra⟩ := found
      have within := measure_le inside before b rest
      rw [hm] at within
      have length : (rest.take extra).length = extra := by rw [List.length_take, Nat.min_eq_left within]
      rw [whole, lex, hm, List.cons_append] at cut
      obtain ⟨first, others⟩ := List.cons.inj cut
      subst first
      have rest_eq : rest = rest.take extra ++ (zs ++ ys) := by
        have tails := congrArg List.tail (whole.symm.trans (congrArg (· ++ ys) text.symm))
        simpa using tails
      have behind : rest.drop extra = zs ++ ys := by
        rw [rest_eq, List.drop_left' length]
      rw [behind] at others
      rw [← text, List.cons_append, lex_cons, ih others rfl]
      have own : measure block before b (rest.take extra ++ (zs ++ ys)) = (kind, (rest.take extra).length) := by
        rw [← rest_eq, hm, length]
      exact measure_of_append_append inside hb own

theorem lex_before (context : xs.head? = some '@'.toUInt8 → before'.any gluesMarker = before.any gluesMarker) :
    lex block before' xs = lex block before xs := by
  cases xs with
  | nil => rw [lex, lex]
  | cons b rest => rw [lex, lex, measure_before fun marker => context (congrArg some marker)]

/-- A marker at the front of the fragment is not glued to the text. -/
theorem Unjoined.any_gluesMarker (apart : Unjoined sql fragment) (marker : (utf8 fragment).head? = some '@'.toUInt8) :
    (utf8 sql).getLast?.any gluesMarker = false := by
  cases last : (utf8 sql).getLast? with
  | none => rfl
  | some a =>
    have free := apart a last _ marker
    simp only [joins, Bool.or_eq_false_iff, show isIdentifier '@'.toUInt8 = true by decide, Bool.and_true,
      decide_true] at free
    obtain ⟨⟨⟨⟨⟨⟨⟨identifier, dot⟩, _⟩, _⟩, _⟩, _⟩, _⟩, _⟩ := free
    simp only [isIdentifier, Bool.or_eq_false_iff] at identifier
    obtain ⟨⟨⟨⟨word, _⟩, _⟩, at_⟩, _⟩ := identifier
    simp only [Option.any_some, gluesMarker, word, at_, dot, Bool.or_self]

/-- A closed text and a fragment behind it are each cut as if the other were not there. -/
theorem Closed.scanned_append (closed : Closed sql) (apart : Unjoined sql fragment) :
    scanned (sql ++ fragment) = scanned sql ++ scanned fragment := by
  obtain ⟨past, cut⟩ := closed.suffix apart
  have behind : lexAt (utf8 (sql ++ fragment)) (utf8 sql).length = scanned fragment := by
    unfold lexAt scanned
    rw [utf8_append, List.take_left, List.drop_left]
    exact lex_before apart.any_gluesMarker
  rw [behind] at cut
  have text : past.flatMap (·.text) = utf8 sql := by
    have whole : (scanned (sql ++ fragment)).flatMap (·.text) = _ := flatMap_lex _ _ _
    have own : (scanned fragment).flatMap (·.text) = utf8 fragment := flatMap_lex _ _ _
    rw [← cut, List.flatMap_append, own, utf8_append] at whole
    exact List.append_cancel_right whole
  have front : scanned sql = past := by
    have whole : lex (wrappedLength 1) none (utf8 sql ++ utf8 fragment) = past ++ scanned fragment := by
      rw [← utf8_append]
      exact cut.symm
    exact lex_of_append (wrappedLength_le 1) (looksAhead_wrappedLength 1) whole text
  rw [front, cut]

theorem Closed.substitute_append (closed : Closed sql) (apart : Unjoined sql fragment) (bound : List String) :
    substitute (sql ++ fragment) bound = substitute sql bound ++ substitute fragment bound := by
  rw [← utf8_inj, utf8_append, (substitute?_spec _ _).1, (substitute?_spec _ _).1, (substitute?_spec _ _).1,
    closed.scanned_append apart, List.flatMap_append]

/-- The characters that join nothing. -/
def separators : List Char := [' ', ',', '(', ')']

theorem joins_separator {c : Char} (separator : c ∈ separators) :
    c.toNat < 128 ∧ ∀ b, joins c.toUInt8 b = false ∧ joins b c.toUInt8 = false := by
  simp only [separators, List.mem_cons, List.not_mem_nil, or_false] at separator
  rcases separator with rfl | rfl | rfl | rfl
  all_goals exact ⟨by decide, fun b => by simp +decide [joins]⟩

theorem unjoined_of_front {c : Char} (separator : c ∈ separators)
    (front : fragment.toList.head? = some c) (sql : String) : Unjoined sql fragment := by
  obtain ⟨ascii, table⟩ := joins_separator separator
  intro a _ b first
  rw [head?_utf8 ascii front] at first
  exact Option.some.inj first ▸ (table a).2

theorem unjoined_of_back {c : Char} (separator : c ∈ separators) (back : sql.toList.getLast? = some c)
    (fragment : String) : Unjoined sql fragment := by
  obtain ⟨ascii, table⟩ := joins_separator separator
  intro a last b _
  rw [getLast?_utf8 ascii back] at last
  exact Option.some.inj last ▸ (table b).1

theorem unjoined_of_blank (blank : fragment.toList.head? = some ' ') (sql : String) : Unjoined sql fragment :=
  unjoined_of_front (by decide) blank sql

/-- Fragments that begin with a blank, put behind one another and each but the last closed, are cut one by
one. -/
theorem scanned_join {front : String} {fragments : List String}
    (closed : ∀ f ∈ (front :: fragments).dropLast, Closed f)
    (blank : ∀ f ∈ fragments, f.toList.head? = some ' ') :
    scanned (String.join (front :: fragments)) = (front :: fragments).flatMap scanned := by
  induction fragments generalizing front with
  | nil => rw [String.join_cons, String.join_nil, String.append_empty, List.flatMap_singleton]
  | cons f rest ih =>
    rw [List.dropLast_cons_cons] at closed
    have starts : (String.join (f :: rest)).toList.head? = some ' ' := by
      rw [String.join_cons, String.toList_append, List.head?_append, blank f List.mem_cons_self, Option.some_or]
    have own : Closed front := closed front List.mem_cons_self
    have later := ih (fun g mem => closed g (List.mem_cons_of_mem _ mem))
      fun g mem => blank g (List.mem_cons_of_mem _ mem)
    rw [String.join_cons, own.scanned_append (unjoined_of_blank starts front), later, ← List.flatMap_cons]

theorem utf8_join (texts : List String) : utf8 (String.join texts) = texts.flatMap utf8 := by
  induction texts with
  | nil => rfl
  | cons text rest ih => rw [String.join_cons, utf8_append, ih, List.flatMap_cons]

theorem substitute_of_scanned {sql : String} {fragments : List String} (cut : scanned sql = fragments.flatMap scanned)
    (bound : List String) : substitute sql bound = String.join (fragments.map (substitute · bound)) := by
  have each : ∀ f, utf8 (substitute f bound) = (scanned f).flatMap (Token.render bound) :=
    fun f => (substitute?_spec f bound).1
  rw [← utf8_inj, each, cut, List.flatMap_assoc, utf8_join, List.flatMap_map]
  simp only [each]

/-! What is bound shows in the copy alone: without one, every scan of a text goes through the same states. -/

def Scan.erase (s : Scan) : Scan := { s with copied := 0, output? := none }

namespace Scan

theorem pastVariable_erase (s : Scan) (sql : String) (bound : List String) (last : Nat) :
    s.erase.pastVariable sql [] last = (s.pastVariable sql bound last).erase := by
  unfold pastVariable
  cases Placeholder.position? bound (slice sql s.index last) <;> rfl

theorem plainStep_erase (s : Scan) (sql : String) (bound : List String) (b : UInt8) :
    s.erase.plainStep sql [] b = (s.plainStep sql bound b).erase := by
  have index : s.erase.index = s.index := rfl
  unfold plainStep
  rw [index]
  cases identifierEnd? sql (s.index + 1) with
  | none =>
    simp only [apply_ite erase]
    rfl
  | some last =>
    simp only [apply_ite erase, pastVariable_erase s sql bound]
    rfl

theorem quotedStep_erase (s : Scan) (sql : String) (quote : Quote) (b : UInt8) :
    s.erase.quotedStep sql quote b = (s.quotedStep sql quote b).erase := by
  unfold quotedStep
  simp only [apply_ite erase]
  rfl

theorem lineCommentStep_erase (s : Scan) (b : UInt8) : s.erase.lineCommentStep b = (s.lineCommentStep b).erase := by
  unfold lineCommentStep
  simp only [apply_ite erase]
  rfl

theorem blockCommentStep_erase (s : Scan) (sql : String) (depth : UInt32) :
    s.erase.blockCommentStep sql depth = (s.blockCommentStep sql depth).erase := by
  unfold blockCommentStep
  simp only [apply_ite erase]
  rfl

theorem step_erase (s : Scan) (sql : String) (bound : List String) (b : UInt8) :
    s.erase.step sql [] b = (s.step sql bound b).erase := by
  have advance : ∀ {stepped next : Scan}, next = stepped.erase →
      { next with index := next.index + 1 } = erase { stepped with index := stepped.index + 1 } := by
    rintro stepped _ rfl
    rfl
  have region : s.erase.region = s.region := rfl
  unfold step
  rw [region]
  cases s.region with
  | plain => exact advance (s.plainStep_erase sql bound b)
  | quoted quote => exact advance (s.quotedStep_erase sql quote b)
  | lineComment => exact advance (s.lineCommentStep_erase b)
  | blockComment depth => exact advance (s.blockCommentStep_erase sql depth)

theorem run_erase (s : Scan) (sql : String) (bound : List String) :
    (run sql bound s).erase = run sql [] s.erase := by
  fun_induction run sql bound s with
  | case1 s h ih =>
    have inside : s.erase.index < sql.utf8ByteSize := h
    rw [ih, ← step_erase, run.eq_def sql [] s.erase, dif_pos inside]
    rfl
  | case2 s h =>
    have outside : ¬s.erase.index < sql.utf8ByteSize := h
    rw [run, dif_neg outside]

end Scan

theorem closed_iff (sql : String) (bound : List String) :
    (Scan.run sql bound {}).region = .plain ↔ Closed sql := by
  have same := congrArg Scan.region (Scan.run_erase {} sql bound)
  exact iff_of_eq (congrArg (· = Region.plain) same)

end TypedSql.Placeholder
