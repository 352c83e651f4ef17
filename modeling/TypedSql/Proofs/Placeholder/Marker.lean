import TypedSql.Proofs.Placeholder.Junction

namespace TypedSql.Placeholder

open Text

/-- A token of a statement begins at a place. -/
def StandsAt (sql : String) (place : Nat) (t : Token) : Prop :=
  ∃ front back, scanned sql = front ++ t :: back ∧ (front.flatMap (·.text)).length = place

/-- What is read as a variable in an identifier that begins behind a given byte: from its first marker on
that is glued to nothing, unless a doubled one comes before. -/
def loose? (before : Option UInt8) : List UInt8 → Option (List UInt8)
  | [] => none
  | b :: rest =>
    if b = '@'.toUInt8 then
      if rest.head? = some '@'.toUInt8 then none
      else if before.any gluesMarker = false ∧ rest ≠ [] then some (b :: rest)
      else loose? (some b) rest
    else loose? (some b) rest

variable {sql front name back : String} {bound : List String} {place index extra : Nat} {t : Token}
  {block : List UInt8 → Nat} {before : Option UInt8} {b : UInt8} {bs rest tail : List UInt8} {ts us : List Token}

theorem lexAt_of_append (cut : lexAt bs index = ts ++ us) :
    lexAt bs (index + (ts.flatMap (·.text)).length) = us := by
  induction ts generalizing index with
  | nil => exact cut
  | cons t ts ih =>
    cases h : bs.drop index with
    | nil => simp [lexAt, h, lex] at cut
    | cons b rest =>
      generalize hm : measureAt bs index b rest = found at cut
      obtain ⟨kind, extra⟩ := found
      rw [lexAt_cons h hm, List.cons_append] at cut
      obtain ⟨rfl, later⟩ := List.cons.inj cut
      have length := Scan.length_of_measureAt hm
      rw [List.flatMap_cons, List.length_append, length, ← Nat.add_assoc, ← Nat.add_assoc]
      exact ih later

theorem StandsAt.measured (h : StandsAt sql place t) :
    ∃ b rest extra, (utf8 sql).drop place = b :: rest ∧ measureAt (utf8 sql) place b rest = (t.kind, extra) := by
  obtain ⟨ts, us, cut, rfl⟩ := h
  have here := lexAt_of_append (show lexAt (utf8 sql) 0 = _ from cut)
  rw [Nat.zero_add] at here
  cases there : (utf8 sql).drop (ts.flatMap (·.text)).length with
  | nil =>
    unfold lexAt at here
    rw [there, lex] at here
    cases here
  | cons b rest =>
    generalize hm : measureAt (utf8 sql) (ts.flatMap (·.text)).length b rest = found
    obtain ⟨kind, extra⟩ := found
    rw [lexAt_cons there hm] at here
    obtain ⟨rfl, _⟩ := List.cons.inj here
    exact ⟨b, rest, extra, rfl, hm⟩

theorem measure_marker (block : List UInt8 → Nat) (before : Option UInt8) (rest : List UInt8) :
    measure block before '@'.toUInt8 rest =
      if rest.head? = some '@'.toUInt8 then (.systemVariable, identifierLength (rest.drop 1) + 1)
      else if before.any gluesMarker = false ∧ 0 < identifierLength rest then (.variable, identifierLength rest)
      else (.other, 0) := by
  unfold measure
  rw [if_neg (by decide), if_neg (by decide), if_neg (by decide), if_neg fun h => absurd h.1 (by decide),
    if_neg fun h => absurd h.1 (by decide)]
  simp only [true_and]

/-- A marker where a token begins starts a variable unless it is doubled or glued, or nothing follows. -/
theorem StandsAt.variable_iff (h : StandsAt sql place t) :
    t.kind = .variable ↔ byte? sql place = some '@'.toUInt8 ∧ followsIdentifier sql place = false ∧
      byte? sql (place + 1) ≠ some '@'.toUInt8 ∧ (byte? sql (place + 1)).any isIdentifier = true := by
  obtain ⟨b, rest, extra, there, hm⟩ := h.measured
  have inside : place ≤ (utf8 sql).length := by
    rw [length_of_drop there]
    omega
  rw [byte?_eq, getElem?_of_drop there, byte?_succ there, followsIdentifier_eq sql place inside,
    ← identifierLength_pos_iff, Option.some.injEq]
  unfold measureAt at hm
  constructor
  · intro kind
    rw [kind] at hm
    obtain ⟨rfl, free, length, positive⟩ := measure_variable hm
    rw [measure_marker] at hm
    refine ⟨rfl, free, fun twice => ?_, length ▸ positive⟩
    rw [if_pos twice] at hm
    cases hm
  · rintro ⟨rfl, free, single, positive⟩
    rw [measure_marker, if_neg single, if_pos ⟨free, positive⟩] at hm
    exact (Prod.mk.inj hm).1.symm

theorem identifierLength_of_all (all : ∀ c ∈ bs, isIdentifier c = true) : identifierLength bs = bs.length := by
  have whole := identifierLength_append all (show [].head?.any isIdentifier = false from rfl)
  rwa [List.append_nil] at whole

theorem ne_of_isIdentifier {c : Char} (identifier : isIdentifier b = true)
    (other : isIdentifier c.toUInt8 = false) :
    b ≠ c.toUInt8 := by
  rintro rfl
  rw [identifier] at other
  cases other

theorem measure_identifier (identifier : isIdentifier b = true) (plain : b ≠ '@'.toUInt8) :
    measure block before b rest = (.other, 0) := by
  have other := fun (c : Char) => ne_of_isIdentifier (c := c) identifier
  unfold measure
  rw [if_neg (other '\'' (by decide)), if_neg (other '"' (by decide)), if_neg (other '[' (by decide)),
    if_neg fun h => other '-' (by decide) h.1, if_neg fun h => other '/' (by decide) h.1,
    if_neg fun h => plain h.1, if_neg fun h => plain h.1]

theorem lex_of_measure {kind : TokenKind} (h : measure block before b rest = (kind, rest.length)) :
    lex block before (b :: rest) = [⟨kind, b :: rest⟩] := by
  have cut := lex_cons (show measure block before b (rest ++ []) = (kind, rest.length) by rwa [List.append_nil])
  rwa [List.append_nil, lex] at cut

/-- At most one variable is read in an identifier. -/
theorem filter_lex_identifier (all : ∀ c ∈ bs, isIdentifier c = true) :
    (lex block before bs).filter (·.kind = .variable) = ((loose? before bs).map (⟨.variable, ·⟩)).toList := by
  have single : ∀ {before b rest}, measure block before b rest = (.other, 0) →
      lex block before (b :: rest) = ⟨.other, [b]⟩ :: lex block (some b) rest := by
    intro before b rest h
    have cut : lex block before (b :: ([] ++ rest)) = _ := lex_cons h
    exact cut
  fun_induction loose? before bs with
  | case1 => rw [lex]; rfl
  | case2 before rest twice =>
    obtain ⟨further, rfl⟩ := List.head?_eq_some_iff.mp twice
    have behind : ∀ c ∈ further, isIdentifier c = true :=
      fun c mem => all c (List.mem_cons_of_mem _ (List.mem_cons_of_mem _ mem))
    have measured : measure block before '@'.toUInt8 ('@'.toUInt8 :: further) =
        (.systemVariable, ('@'.toUInt8 :: further).length) := by
      rw [measure_marker, if_pos twice, List.drop_one, List.tail_cons, identifierLength_of_all behind]
      rfl
    rw [lex_of_measure measured]
    rfl
  | case3 before rest apart free =>
    have behind : ∀ c ∈ rest, isIdentifier c = true := fun c mem => all c (List.mem_cons_of_mem _ mem)
    have length := identifierLength_of_all behind
    have positive : 0 < identifierLength rest := length ▸ List.length_pos_iff.mpr free.2
    have measured : measure block before '@'.toUInt8 rest = (.variable, rest.length) := by
      rw [measure_marker, if_neg apart, if_pos ⟨free.1, positive⟩, length]
    rw [lex_of_measure measured]
    rfl
  | case4 before rest apart glued ih =>
    have behind : ∀ c ∈ rest, isIdentifier c = true := fun c mem => all c (List.mem_cons_of_mem _ mem)
    have other : measure block before '@'.toUInt8 rest = (.other, 0) := by
      rw [measure_marker, if_neg apart, if_neg]
      rintro ⟨free, positive⟩
      refine glued ⟨free, ?_⟩
      rintro rfl
      exact absurd positive (Nat.lt_irrefl 0)
    rw [single other]
    exact ih behind
  | case5 before b rest plain ih =>
    have behind : ∀ c ∈ rest, isIdentifier c = true := fun c mem => all c (List.mem_cons_of_mem _ mem)
    rw [single (measure_identifier (all b List.mem_cons_self) plain)]
    exact ih behind

/-- Where every marker but one in front is glued to the byte before it, nothing is read as a variable. -/
theorem loose?_eq_none (first : bs.head? = some '@'.toUInt8 → before.any gluesMarker = true)
    (glued : ∀ a, [a, '@'.toUInt8] <:+: bs → gluesMarker a = true) : loose? before bs = none := by
  have behind : ∀ {b rest}, (∀ a, [a, '@'.toUInt8] <:+: b :: rest → gluesMarker a = true) →
      (rest.head? = some '@'.toUInt8 → (some b).any gluesMarker = true) ∧
        ∀ a, [a, '@'.toUInt8] <:+: rest → gluesMarker a = true := by
    intro b rest glued
    refine ⟨fun next => ?_, fun a inside => glued a (inside.trans (List.suffix_cons b rest).isInfix)⟩
    obtain ⟨further, rfl⟩ := List.head?_eq_some_iff.mp next
    exact glued b (List.prefix_append [b, '@'.toUInt8] further).isInfix
  fun_induction loose? before bs with
  | case1 => rfl
  | case2 => rfl
  | case3 before rest apart free => rw [first rfl] at free; cases free.1
  | case4 before rest apart _ ih => exact ih (behind glued).1 (behind glued).2
  | case5 before b rest plain ih => exact ih (behind glued).1 (behind glued).2

/-- A byte that opens a quoted region, or a comment together with another byte. -/
def opens (b : UInt8) : Bool :=
  b = '\''.toUInt8 || b = '"'.toUInt8 || b = '['.toUInt8 || b = '-'.toUInt8 || b = '/'.toUInt8

theorem opens_of_isIdentifier (identifier : isIdentifier b = true) : opens b = false := by
  have other := fun (c : Char) => ne_of_isIdentifier (c := c) identifier
  simp only [opens, other '\'' (by decide), other '"' (by decide), other '[' (by decide), other '-' (by decide),
    other '/' (by decide), decide_false, Bool.or_self]

theorem Scan.region_step {s : Scan} (h : (utf8 sql).drop s.index = b :: rest) (free : opens b = false)
    (plain : s.region = .plain) : (s.step sql [] b).region = .plain := by
  simp only [opens, Bool.or_eq_false_iff, decide_eq_false_iff_not] at free
  obtain ⟨⟨⟨⟨single, double⟩, bracket⟩, dash⟩, slash⟩ := free
  have line : pairAt sql s.index '-' '-' = false :=
    Bool.eq_false_iff.mpr fun pair => dash ((pairAt_of_drop h _ _).mp pair).1
  have block : pairAt sql s.index '/' '*' = false :=
    Bool.eq_false_iff.mpr fun pair => slash ((pairAt_of_drop h _ _).mp pair).1
  unfold step
  simp only [plain, plainStep, if_neg single, if_neg double, if_neg bracket, line, block, Bool.false_eq_true,
    if_false]
  repeat' split
  all_goals first | exact plain | rfl

/-- A text in which nothing is opened is closed. -/
theorem closed_of_opens (free : ∀ c ∈ utf8 sql, opens c = false) : Closed sql := by
  have run : ∀ s : Scan, s.region = .plain → (Scan.run sql [] s).region = .plain := by
    intro s plain
    fun_induction Scan.run sql [] s with
    | case1 s h ih =>
      have here := Scan.drop_of_lt h
      have mem := List.mem_of_mem_drop (here ▸ List.mem_cons_self)
      exact ih (Scan.region_step here (free _ mem) plain)
    | case2 => exact plain
  exact run {} rfl

theorem closed_of_isIdentifier (all : ∀ c ∈ utf8 name, isIdentifier c = true) : Closed name :=
  closed_of_opens fun c mem => opens_of_isIdentifier (all c mem)

/-- An identifier that starts with something else than a marker stands between two texts, and the first
of them leaves it outside every quoted region and every comment. -/
structure Embedded (front name back : String) : Prop where
  closed : Closed front
  all : ∀ c ∈ utf8 name, isIdentifier c = true
  starts : ∃ c ∈ (utf8 name).head?, c ≠ '@'.toUInt8
  before : ∀ c ∈ (utf8 front).getLast?, isIdentifier c = false
  after : ∀ c ∈ (utf8 back).head?, isIdentifier c = false

theorem joins_of_identifier_left {a : UInt8} (identifier : isIdentifier a = true)
    (outside : isIdentifier b = false) :
    joins a b = false := by
  have other := fun (c : Char) => ne_of_isIdentifier (c := c) identifier
  simp only [joins, outside, Bool.and_false, other '.' (by decide), other '-' (by decide), other '/' (by decide),
    other '*' (by decide), other '\'' (by decide), other '"' (by decide), other ']' (by decide), decide_false,
    Bool.false_and, Bool.or_self]

theorem joins_of_identifier_right {a : UInt8} (outside : isIdentifier a = false) (identifier : isIdentifier b = true)
    (plain : b ≠ '@'.toUInt8) : joins a b = false := by
  have other := fun (c : Char) => ne_of_isIdentifier (c := c) identifier
  simp only [joins, outside, Bool.false_and, plain, other '-' (by decide), other '/' (by decide),
    other '*' (by decide), other '\'' (by decide), other '"' (by decide), other ']' (by decide), decide_false,
    Bool.and_false, Bool.or_self]

namespace Embedded

theorem apart_back (h : Embedded front name back) : Unjoined name back :=
  fun a last b next => joins_of_identifier_left (h.all a (List.mem_of_getLast? last)) (h.after b next)

theorem apart_front (h : Embedded front name back) : Unjoined front (name ++ back) := by
  obtain ⟨c, first, plain⟩ := h.starts
  intro a last b next
  rw [utf8_append, List.head?_append, show (utf8 name).head? = some c from first] at next
  obtain rfl : c = b := Option.some.inj next
  exact joins_of_identifier_right (h.before a last) (h.all c (List.mem_of_head? first)) plain

theorem scanned_append (h : Embedded front name back) :
    scanned (front ++ (name ++ back)) = scanned front ++ (scanned name ++ scanned back) := by
  rw [h.closed.scanned_append h.apart_front, (closed_of_isIdentifier h.all).scanned_append h.apart_back]

theorem substitute_append (h : Embedded front name back) (bound : List String) :
    substitute (front ++ (name ++ back)) bound =
      substitute front bound ++ (substitute name bound ++ substitute back bound) := by
  rw [h.closed.substitute_append h.apart_front, (closed_of_isIdentifier h.all).substitute_append h.apart_back]

/-- An identifier is copied as it stands unless what is read as a variable in it is bound. -/
theorem substitute?_eq_none_iff (h : Embedded front name back) (bound : List String) :
    substitute? name bound = none ↔
      ∀ tail, loose? none (utf8 name) = some tail → Token.position? bound ⟨.variable, tail⟩ = none := by
  have read : (scanned name).filter (·.kind = .variable) = _ := filter_lex_identifier h.all
  have others : ∀ t : Token, t.kind ≠ .variable → t.position? bound = none := by
    intro t kind
    exact if_neg kind
  rw [Placeholder.substitute?_eq_none_iff]
  constructor
  · intro unbound tail loose
    have mem : (⟨.variable, tail⟩ : Token) ∈ (scanned name).filter (·.kind = .variable) := by
      rw [read, loose]
      exact List.mem_singleton_self _
    exact unbound _ (List.mem_filter.mp mem).1
  · intro unbound t mem
    by_cases kind : t.kind = .variable
    · have there : t ∈ (scanned name).filter (·.kind = .variable) :=
        List.mem_filter.mpr ⟨mem, decide_eq_true kind⟩
      rw [read, Option.mem_toList] at there
      obtain ⟨tail, loose, rfl⟩ := Option.map_eq_some_iff.mp there
      exact unbound tail loose
    · exact others t kind

end Embedded

/-- A bound variable is replaced only where its marker is glued to nothing: not right behind a letter or a
digit of ASCII, an underscore, a marker or a dot. Behind any other byte a marker in code starts a variable
unless it is doubled or no identifier follows. So an identifier in code that does not start with a marker is
cut and replaced apart from what is around it; it stays as it is exactly if the part that is read as a
variable in it, if any, is not bound; and it does so in any case where its markers are all glued. -/
theorem substitute_glued (sql : String) (bound : List String) :
    (∀ place t, StandsAt sql place t →
      ((t.position? bound).isSome = true →
        byte? sql place = some '@'.toUInt8 ∧ followsIdentifier sql place = false) ∧
      (byte? sql place = some '@'.toUInt8 →
        (t.kind = .variable ↔ followsIdentifier sql place = false ∧
          byte? sql (place + 1) ≠ some '@'.toUInt8 ∧ (byte? sql (place + 1)).any isIdentifier = true))) ∧
    ∀ front name back, Embedded front name back → front ++ (name ++ back) = sql →
      scanned sql = scanned front ++ (scanned name ++ scanned back) ∧
      substitute sql bound = substitute front bound ++ (substitute name bound ++ substitute back bound) ∧
      (substitute? name bound = none ↔
        ∀ tail, loose? none (utf8 name) = some tail → Token.position? bound ⟨.variable, tail⟩ = none) ∧
      ((∀ a, [a, '@'.toUInt8] <:+: utf8 name → gluesMarker a = true) → substitute? name bound = none) := by
  refine ⟨fun place t stands => ⟨fun replaced => ?_, fun marker => ?_⟩, ?_⟩
  · obtain ⟨position, found⟩ := Option.isSome_iff_exists.mp replaced
    obtain ⟨marker, free, _⟩ := stands.variable_iff.mp (Token.kind_of_position? found)
    exact ⟨marker, free⟩
  · rw [stands.variable_iff]
    exact and_iff_right marker
  · rintro front name back embedded rfl
    have unbound := embedded.substitute?_eq_none_iff bound
    refine ⟨embedded.scanned_append, embedded.substitute_append bound, unbound, fun glued => unbound.mpr ?_⟩
    obtain ⟨c, first, plain⟩ := embedded.starts
    rw [loose?_eq_none (fun marker => absurd (Option.some.inj (first.symm.trans marker)) plain) glued]
    rintro tail ⟨⟩

/-- The same spelling behind a name is left alone, and behind a blank it is not. -/
theorem substitute_glued_mail :
    let sql := "WHERE mail = ops@id OR id = @id"
    Embedded "WHERE mail = " "ops@id" " OR id = @id" ∧ substitute? "ops@id" ["@id"] = none ∧
      substitute sql ["@id"] = "WHERE mail = ops@id OR id = @P1" ∧
      ∃ t, StandsAt sql 28 t ∧ (t.position? ["@id"]).isSome = true ∧ t.kind = .variable ∧
        followsIdentifier sql 28 = false := by
  intro sql
  have embedded : Embedded "WHERE mail = " "ops@id" " OR id = @id" :=
    ⟨by decide +kernel, by decide +kernel, ⟨'o'.toUInt8, by decide +kernel, by decide⟩, by decide +kernel,
      by decide +kernel⟩
  have stands : StandsAt sql 28 ⟨.variable, utf8 "@id"⟩ :=
    ⟨(scanned sql).take 28, (scanned sql).drop 29, by decide +kernel, by decide +kernel⟩
  have bound : (Token.position? ["@id"] ⟨.variable, utf8 "@id"⟩).isSome = true := by decide +kernel
  obtain ⟨places, apart⟩ := substitute_glued sql ["@id"]
  obtain ⟨marker, loose⟩ := (places 28 _ stands).1 bound
  have kind := ((places 28 _ stands).2 marker).mpr ⟨loose, by decide +kernel, by decide +kernel⟩
  obtain ⟨_, parts, _, glued⟩ := apart _ _ _ embedded (by decide +kernel)
  have alone : substitute? "ops@id" ["@id"] = none := by
    have every : ∀ a ∈ utf8 "ops@id", gluesMarker a = true := by decide +kernel
    exact glued fun a inside => every a (inside.subset List.mem_cons_self)
  refine ⟨embedded, alone, ?_, _, stands, bound, kind, loose⟩
  rw [parts, substitute, substitute, alone]
  decide +kernel

/-- Behind a letter beyond ASCII, a `$` or a `#` a marker is taken for the start of a variable. -/
theorem substitute_tears_identifier :
    let sql := "SELECT café@id, cost$@id, part#@id FROM t"
    substitute sql ["@id"] = "SELECT café@P1, cost$@P1, part#@P1 FROM t" ∧
      ∃ place t a, StandsAt sql place t ∧ (t.position? ["@id"]).isSome = true ∧
        byte? sql (place - 1) = some a ∧ isIdentifier a = true := by
  intro sql
  have stands : StandsAt sql 12 ⟨.variable, utf8 "@id"⟩ :=
    ⟨(scanned sql).take 12, (scanned sql).drop 13, by decide +kernel, by decide +kernel⟩
  refine ⟨by decide +kernel, 12, _, 0xA9, stands, ?_⟩
  decide +kernel

end TypedSql.Placeholder
