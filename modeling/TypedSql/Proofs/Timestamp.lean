import Mathlib.Algebra.Group.Nat.Defs
import TypedSql.Json.Printer
import TypedSql.Timestamp.Reader

namespace TypedSql

variable {c : Char} {width places n : Nat} {rest : List Char}

theorem isDigit_iff : Timestamp.isDigit c = true ↔ c.isDigit = true := by
  simp [Timestamp.isDigit, Char.isDigit, Char.le_def]

theorem toNat_of_isDigit (digit : Timestamp.isDigit c = true) : 48 ≤ c.toNat ∧ c.toNat ≤ 57 := by
  simp only [Timestamp.isDigit, Bool.and_eq_true, decide_eq_true_eq, Char.le_def, UInt32.le_iff_toNat_le] at digit
  exact digit

theorem isDigit_of_mem_pad (mem : c ∈ pad width n) : Timestamp.isDigit c = true := by
  rcases List.mem_append.mp mem with zero | digit
  · rw [List.eq_of_mem_replicate zero]
    decide
  · exact isDigit_iff.mpr (Nat.isDigit_of_mem_toDigits (by decide) (by decide) digit)

theorem length_pad (fits : n < 10 ^ width) (positive : 0 < width) : (pad width n).length = width := by
  have short : (Nat.toDigits 10 n).length ≤ width := (Nat.length_toDigits_le_iff (by decide) positive).mpr fits
  rw [pad, List.length_append, List.length_replicate]
  omega

theorem pad_ne_nil (width n : Nat) : pad width n ≠ [] := by
  intro none
  exact Nat.toDigits_ne_nil (List.append_eq_nil_iff.mp none).2

theorem exists_pad_eq_cons (width n : Nat) :
    ∃ first others, pad width n = first :: others ∧ Timestamp.isDigit first = true := by
  obtain ⟨first, others, digits⟩ := List.exists_cons_of_ne_nil (pad_ne_nil width n)
  exact ⟨first, others, digits, isDigit_of_mem_pad (digits ▸ List.mem_cons_self)⟩

namespace Clock

variable {clock : Clock}

/-- A time in a leap second has the number 60 in its text. -/
def LeapsToSixty (c : Clock) : Prop := 1000000000 ≤ c.nanosecond → c.writtenSecond = 60

instance (c : Clock) : Decidable c.LeapsToSixty := inferInstanceAs (Decidable (_ → _))

theorem writtenSecond_le (c : Clock) : c.writtenSecond ≤ 60 := by
  have := c.secondInRange
  have := c.nanosecondInRange
  rw [writtenSecond]
  omega

theorem writtenSecond_of_lt (plain : clock.nanosecond < 1000000000) : clock.writtenSecond = clock.second := by
  rw [writtenSecond, Nat.div_eq_of_lt plain, Nat.add_zero]

theorem writtenSecond_of_le (leap : 1000000000 ≤ clock.nanosecond) : clock.writtenSecond = clock.second + 1 := by
  have := clock.nanosecondInRange
  rw [writtenSecond]
  omega

/-- That is so behind the 59th second only. -/
theorem leapsToSixty_iff : clock.LeapsToSixty ↔ clock.nanosecond < 1000000000 ∨ clock.second = 59 := by
  rcases Nat.lt_or_ge clock.nanosecond 1000000000 with plain | leap
  · exact ⟨fun _ => .inl plain, fun _ leap => absurd plain (Nat.not_lt.mpr leap)⟩
  · rw [LeapsToSixty, writtenSecond_of_le leap]
    omega

theorem leap_of_not (other : ¬clock.LeapsToSixty) : 1000000000 ≤ clock.nanosecond ∧ clock.second + 1 < 60 := by
  have := clock.secondInRange
  rw [leapsToSixty_iff] at other
  omega

/-- The time that is written: a leap second that has not the number 60 is written as the second behind it. -/
def asWritten (c : Clock) : Clock :=
  if leaps : c.LeapsToSixty then c
  else ⟨c.hour, c.minute, c.second + 1, c.nanosecond - 1000000000, c.hourInRange, c.minuteInRange,
    (leap_of_not leaps).2, Nat.lt_of_le_of_lt (Nat.sub_le _ _) c.nanosecondInRange⟩

theorem asWritten_eq_self_iff : clock.asWritten = clock ↔ clock.LeapsToSixty := by
  refine ⟨fun same => ?_, fun leaps => dif_pos leaps⟩
  by_cases leaps : clock.LeapsToSixty
  · exact leaps
  · rw [asWritten, dif_neg leaps] at same
    exact absurd (congrArg second same) (Nat.succ_ne_self _)

theorem leapsToSixty_asWritten (c : Clock) : c.asWritten.LeapsToSixty := by
  by_cases leaps : c.LeapsToSixty
  · rwa [asWritten_eq_self_iff.mpr leaps]
  · have := c.nanosecondInRange
    rw [asWritten, dif_neg leaps, leapsToSixty_iff]
    exact .inl (by simp only; omega)

theorem render_asWritten (c : Clock) : c.asWritten.render = c.render := by
  by_cases leaps : c.LeapsToSixty
  · rw [asWritten_eq_self_iff.mpr leaps]
  · obtain ⟨leap, _⟩ := leap_of_not leaps
    have below := c.nanosecondInRange
    have written : c.second + 1 + (c.nanosecond - 1000000000) / 1000000000 = c.second + c.nanosecond / 1000000000 := by
      omega
    have fraction : (c.nanosecond - 1000000000) % 1000000000 = c.nanosecond % 1000000000 := by omega
    simp only [asWritten, dif_neg leaps, render, writtenSecond, written, renderFraction, fraction]

end Clock

namespace Timestamp

theorem decimal_pad (width n : Nat) : decimal (pad width n) = n := by
  have digits : ∀ cs m, cs.foldl (fun n c => n * 10 + (c.toNat - 48)) m = Nat.ofDigitChars 10 cs m := by
    intro cs m
    simp only [Nat.ofDigitChars, Nat.mul_comm]
    rfl
  have zeros : ∀ k, (List.replicate k '0').foldl (fun n c => n * 10 + (c.toNat - 48)) 0 = 0 := by
    intro k
    induction k with
    | zero => rfl
    | succ k ih => exact ih
  rw [decimal, pad, List.foldl_append, zeros, digits]
  exact Nat.ofDigitChars_toDigits (by decide) (by decide)

theorem takeWhile_pad_append (stop : ∀ c more, rest = c :: more → isDigit c = false) :
    (pad places n ++ rest).takeWhile isDigit = pad places n := by
  rw [List.takeWhile_append_of_pos fun c mem => isDigit_of_mem_pad mem]
  cases rest with
  | nil => rw [List.takeWhile_nil, List.append_nil]
  | cons c more => rw [List.takeWhile_cons_of_neg (by simp [stop c more rfl]), List.append_nil]

theorem takeWhile_pad (places n : Nat) : (pad places n).takeWhile isDigit = pad places n := by
  have whole : (pad places n ++ []).takeWhile isDigit = pad places n := takeWhile_pad_append nofun
  rwa [List.append_nil] at whole

/-- A number that is read in full. -/
theorem number_pad {width : Option Nat} (whole : leadingDigits width (pad places n ++ rest) = pad places n)
    (small : n < 2 ^ 63) : number width (pad places n ++ rest) = .ok (n, rest) := by
  have there : (pad places n ++ rest).isEmpty = false := by
    simp [pad_ne_nil]
  have digits : (pad places n).isEmpty = false := by simp [pad_ne_nil]
  have fits : ¬Nat.pow 2 63 ≤ n := Nat.not_le.mpr small
  simp only [number, whole, there, digits, decimal_pad, if_neg fits, List.drop_left, Bool.false_eq_true, if_false]

/-- As many digits as there may be are taken, whatever comes behind them. -/
theorem number_pad_of_places (fits : n < 10 ^ places) (positive : 0 < places) (small : n < 2 ^ 63)
    (rest : List Char) : number (some places) (pad places n ++ rest) = .ok (n, rest) := by
  refine number_pad ?_ small
  have front : (pad places n ++ rest).take places = pad places n := List.take_left' (length_pad fits positive)
  simp only [leadingDigits, front, takeWhile_pad]

/-- All digits are taken, and what comes behind them is no digit. -/
theorem number_pad_of_stop (stop : ∀ c more, rest = c :: more → isDigit c = false) (small : n < 2 ^ 63) :
    number none (pad places n ++ rest) = .ok (n, rest) :=
  number_pad (takeWhile_pad_append stop) small

theorem not_blank_of_isDigit (digit : isDigit c = true) : Text.isBlank c = false := by
  obtain ⟨low, high⟩ := toNat_of_isDigit digit
  simp only [Text.isBlank, Bool.or_eq_false_iff, Bool.and_eq_false_iff, decide_eq_false_iff_not]
  omega

theorem trimLeft_of_head {cs : List Char} (head : ∀ c more, cs = c :: more → Text.isBlank c = false) :
    Text.trimLeft cs = cs := by
  cases cs with
  | nil => rfl
  | cons c more => exact List.dropWhile_cons_of_neg (by simp [head c more rfl])

theorem trimLeft_pad (places n : Nat) (rest : List Char) :
    Text.trimLeft (pad places n ++ rest) = pad places n ++ rest := by
  obtain ⟨first, others, digits, digit⟩ := exists_pad_eq_cons places n
  rw [digits]
  refine trimLeft_of_head fun c more whole => ?_
  cases whole
  exact not_blank_of_isDigit digit

theorem signedYear_renderYear {year : Int} (range : -262143 ≤ year ∧ year ≤ 262142) (rest : List Char) :
    signedYear (renderYear year ++ '-' :: rest) = .ok (year, '-' :: rest) := by
  have stop : ∀ c more, '-' :: rest = c :: more → isDigit c = false := by
    rintro c more whole
    cases whole
    rfl
  unfold renderYear
  split
  next plain =>
    simp only [Bool.and_eq_true, decide_eq_true_eq] at plain
    obtain ⟨first, others, digits, digit⟩ := exists_pad_eq_cons 4 year.toNat
    have back : (year.toNat : Int) = year := Int.toNat_of_nonneg plain.1
    have read : number (some 4) (pad 4 year.toNat ++ '-' :: rest) = .ok (year.toNat, '-' :: rest) :=
      number_pad_of_places (by omega) (by decide) (by omega) _
    rw [digits] at read ⊢
    unfold signedYear
    split
    next whole => cases whole; cases digit
    next whole => cases whole; cases digit
    next => simp only [read, Except.map, back]
  next signed =>
    have read : number none (pad 4 year.natAbs ++ '-' :: rest) = .ok (year.natAbs, '-' :: rest) :=
      number_pad_of_stop stop (by omega)
    split
    next negative =>
      have back : -(year.natAbs : Int) = year := by omega
      simp only [List.cons_append, signedYear, read, Except.map, back]
    next positive =>
      have back : (year.natAbs : Int) = year := by omega
      simp only [List.cons_append, signedYear, read, Except.map, back]

theorem readPart_year {year : Int} (range : -262143 ≤ year ∧ year ≤ 262142) (d : Draft) (rest : List Char) :
    readPart d (renderYear year ++ '-' :: rest) (.field .year) = .ok ({ d with year := year }, '-' :: rest) := by
  have front : Text.trimLeft (renderYear year ++ '-' :: rest) = renderYear year ++ '-' :: rest := by
    unfold renderYear
    split
    next => exact trimLeft_pad 4 year.toNat _
    next => split <;> rfl
  have fits : (-2147483648 ≤ year && year < 2147483648) = true := by
    simp only [Bool.and_eq_true, decide_eq_true_eq]
    omega
  simp only [readPart, readField, front, signedYear_renderYear range, fits, bind, Except.bind, if_true]
  rfl

theorem readPart_field {field : Field} (other : field ≠ .year) (within : field.bounds.1 ≤ n ∧ n ≤ field.bounds.2)
    (d : Draft) (rest : List Char) : readPart d (pad 2 n ++ rest) (.field field) = .ok (d.put field n, rest) := by
  have small : n < 10 ^ 2 := by
    cases field <;> simp only [Field.bounds] at within <;> first | omega | exact absurd rfl other
  have fits : (field.bounds.1 ≤ n && n ≤ field.bounds.2) = true := by simpa using within
  simp only [readPart, readField, trimLeft_pad, number_pad_of_places small (by decide) (by omega : n < 2 ^ 63), fits,
    if_neg other, bind, Except.bind, if_true]
  rfl

/-- The digits of a fraction say how many places it has. -/
theorem readFraction_digits {m : Nat} (fits : m < 10 ^ places) (positive : 0 < places) (most : places ≤ 9)
    (d : Draft) : readFraction d ('.' :: pad places m) =
      .ok ({ d with nanosecond := m * 10 ^ (9 - places) }, []) := by
  have length := length_pad fits positive
  have small : m < 2 ^ 63 := by
    have := Nat.pow_le_pow_right (show 0 < 10 by decide) most
    omega
  have read : number (some 9) (pad places m ++ []) = .ok (m, []) := by
    refine number_pad ?_ small
    rw [leadingDigits, List.append_nil, List.take_of_length_le (by omega), takeWhile_pad]
  rw [List.append_nil] at read
  simp only [readFraction, read, bind, Except.bind, List.length_nil, Nat.sub_zero, length]
  rfl

theorem readPart_fraction (nanosecond : Nat) {d : Draft} (none : d.nanosecond = 0) :
    readPart d (renderFraction nanosecond) .fraction =
      .ok ({ d with nanosecond := nanosecond % 1000000000 }, []) := by
  have below : nanosecond % 1000000000 < 1000000000 := Nat.mod_lt _ (by decide)
  unfold readPart renderFraction
  generalize nanosecond % 1000000000 = n at below
  simp only
  split
  next zero =>
    cases d
    simp only at none
    rw [zero, none]
    rfl
  next =>
    split
    next milli =>
      have back : n / 1000000 * 10 ^ (9 - 3) = n := by omega
      rw [readFraction_digits (by omega) (by decide) (by decide), back]
    next =>
      split
      next micro =>
        have back : n / 1000 * 10 ^ (9 - 6) = n := by omega
        rw [readFraction_digits (by omega) (by decide) (by decide), back]
      next => rw [readFraction_digits (by omega) (by decide) (by decide), Nat.sub_self, Nat.pow_zero, Nat.mul_one]

theorem readParts_cons {d d' : Draft} {cs cs' : List Char} {part : Part} (read : readPart d cs part = .ok (d', cs'))
    (parts : List Part) : readParts d cs (part :: parts) = readParts d' cs' parts := by
  simp only [readParts, read, bind, Except.bind]

/-- What is read of a timestamp's text. -/
def draft (t : Timestamp) : Draft where
  year := t.date.year
  month := t.date.month
  day := t.date.day
  hour := t.clock.hour
  minute := t.clock.minute
  second := t.clock.writtenSecond
  nanosecond := t.clock.nanosecond % 1000000000

theorem day_le (d : Date) : d.day ≤ 31 := by
  have range := d.dayInRange.2
  unfold monthLength at range
  split at range
  · split at range <;> omega
  · split at range <;> omega

theorem readPart_blank (d : Draft) {c : Char} (solid : Text.isBlank c = false) (rest : List Char) :
    readPart d (c :: rest) .blank = .ok (d, c :: rest) := by
  rw [readPart, trimLeft_of_head]
  rintro first more whole
  cases whole
  exact solid

theorem readPart_mark (d : Draft) (c : Char) (rest : List Char) :
    readPart d (c :: rest) (.mark c) = .ok (d, rest) := by
  simp only [readPart, if_true]

theorem readParts_date (date : Date) (clock : List Char) :
    readParts {} (date.render ++ 'T' :: clock) joinedForm =
      readParts { year := date.year, month := date.month, day := date.day } ('T' :: clock) (joinedForm.drop 8) := by
  have solid : Text.isBlank '-' = false := rfl
  have days := And.intro date.dayInRange.1 (day_le date)
  simp only [Date.render, List.append_assoc, List.cons_append]
  rw [joinedForm, readParts_cons (readPart_year date.yearInRange _ _),
    readParts_cons (readPart_blank _ solid _), readParts_cons (readPart_mark _ _ _),
    readParts_cons (readPart_field (by decide : Field.month ≠ .year) date.monthInRange _ _),
    readParts_cons (readPart_blank _ solid _), readParts_cons (readPart_mark _ _ _),
    readParts_cons (readPart_field (by decide : Field.day ≠ .year) days _ _),
    readParts_cons (readPart_blank _ rfl _)]
  rfl

theorem readParts_clock (clock : Clock) {d : Draft} (none : d.nanosecond = 0) :
    readParts d ('T' :: clock.render) (joinedForm.drop 8) =
      .ok ({ d with hour := clock.hour, minute := clock.minute,
                    second := clock.writtenSecond,
                    nanosecond := clock.nanosecond % 1000000000 }, []) := by
  have solid : Text.isBlank ':' = false := rfl
  have hours : 0 ≤ clock.hour ∧ clock.hour ≤ 23 := ⟨Nat.zero_le _, Nat.le_of_lt_succ clock.hourInRange⟩
  have minutes : 0 ≤ clock.minute ∧ clock.minute ≤ 59 := ⟨Nat.zero_le _, Nat.le_of_lt_succ clock.minuteInRange⟩
  have seconds : 0 ≤ clock.writtenSecond ∧ _ := ⟨Nat.zero_le _, clock.writtenSecond_le⟩
  have left : joinedForm.drop 8 = [.mark 'T', .field .hour, .blank, .mark ':', .field .minute, .blank, .mark ':',
      .field .second, .fraction, .blank] := rfl
  have kept : (((d.put .hour clock.hour).put .minute clock.minute).put .second clock.writtenSecond).nanosecond = 0 :=
    none
  simp only [Clock.render, List.append_assoc, List.cons_append]
  rw [left, readParts_cons (readPart_mark _ _ _),
    readParts_cons (readPart_field (by decide : Field.hour ≠ .year) hours _ _),
    readParts_cons (readPart_blank _ solid _), readParts_cons (readPart_mark _ _ _),
    readParts_cons (readPart_field (by decide : Field.minute ≠ .year) minutes _ _),
    readParts_cons (readPart_blank _ solid _), readParts_cons (readPart_mark _ _ _),
    readParts_cons (readPart_field (by decide : Field.second ≠ .year) seconds _ _),
    readParts_cons (readPart_fraction _ kept)]
  rfl

theorem readParts_render (t : Timestamp) :
    readParts {} (t.date.render ++ 'T' :: t.clock.render) joinedForm = .ok (t.draft, []) := by
  rw [readParts_date, readParts_clock t.clock rfl]
  rfl

theorem of?_date (d : Date) : Date.of? d.year d.month d.day = some d := by
  rw [Date.of?, dif_pos d.yearInRange, dif_pos d.monthInRange, dif_pos d.dayInRange]

theorem of?_clock {c : Clock} (leaps : c.LeapsToSixty) : Clock.of? c.hour c.minute c.second c.nanosecond = some c := by
  have fits := c.nanosecondInRange
  have given : c.nanosecond < 1000000000 ∨ c.second = 59 ∧ c.nanosecond < 2000000000 :=
    (Clock.leapsToSixty_iff.mp leaps).imp_right fun last => ⟨last, fits⟩
  rw [Clock.of?, dif_pos ⟨c.hourInRange, c.minuteInRange, c.secondInRange, given⟩]

theorem finish_draft {t : Timestamp} (leaps : t.clock.LeapsToSixty) : t.draft.finish = .ok t := by
  have second := t.clock.secondInRange
  have date := of?_date t.date
  have clock := of?_clock leaps
  rcases Nat.lt_or_ge t.clock.nanosecond 1000000000 with plain | leap
  · have own : ¬t.clock.second = 60 := by omega
    simp only [Draft.finish, draft, Clock.writtenSecond_of_lt plain, if_neg own, Nat.mod_eq_of_lt plain, Nat.add_zero,
      date, clock]
  · have fits := t.clock.nanosecondInRange
    have last : t.clock.second = 59 := (Clock.leapsToSixty_iff.mp leaps).resolve_left (Nat.not_lt.mpr leap)
    have rest : t.clock.nanosecond % 1000000000 + 1000000000 = t.clock.nanosecond := by omega
    rw [last] at clock
    simp only [Draft.finish, draft, leaps leap, rest, if_true, date, clock]

/-- The timestamp that is written; it is another one where a leap second has not the number 60 in its text. -/
def asWritten (t : Timestamp) : Timestamp := ⟨t.date, t.clock.asWritten⟩

theorem asWritten_eq_self_iff {t : Timestamp} : t.asWritten = t ↔ t.clock.LeapsToSixty := by
  refine ⟨fun same => Clock.asWritten_eq_self_iff.mp (congrArg clock same), fun leaps => ?_⟩
  rw [asWritten, Clock.asWritten_eq_self_iff.mpr leaps]

theorem render_asWritten (t : Timestamp) : t.asWritten.render = t.render := by
  simp only [render, asWritten, Clock.render_asWritten]

/-- The text of a timestamp is read as the timestamp that is written. -/
theorem read_render (t : Timestamp) : read joinedForm t.render = .ok t.asWritten := by
  rw [← render_asWritten]
  simp only [read, Timestamp.render, String.toList_ofList, readParts_render, bind, Except.bind, List.isEmpty_nil,
    if_true, finish_draft (t := t.asWritten) t.clock.leapsToSixty_asWritten]

/-! A timestamp's text stands in a document as it is. -/

theorem escape_of_isDigit (digit : isDigit c = true) : Json.escape c = [c] := by
  obtain ⟨low, high⟩ := toNat_of_isDigit digit
  have other : ∀ d : Char, d.toNat < 48 ∨ 57 < d.toNat → c ≠ d := by
    rintro d outside rfl
    omega
  have printed : ¬c.toNat < 32 := by omega
  simp only [Json.escape, if_neg (other '"' (by decide)), if_neg (other '\\' (by decide)),
    if_neg (other '\x08' (by decide)), if_neg (other '\x0c' (by decide)), if_neg (other '\n' (by decide)),
    if_neg (other '\r' (by decide)), if_neg (other '\t' (by decide)), if_neg printed]

theorem flatMap_escape_pad (width n : Nat) : (pad width n).flatMap Json.escape = pad width n := by
  have plain : ∀ cs : List Char, (∀ c ∈ cs, isDigit c = true) → cs.flatMap Json.escape = cs := by
    intro cs digits
    induction cs with
    | nil => rfl
    | cons c rest ih =>
      rw [List.flatMap_cons, escape_of_isDigit (digits c List.mem_cons_self),
        ih fun d mem => digits d (List.mem_cons_of_mem c mem), List.singleton_append]
  exact plain _ fun c mem => isDigit_of_mem_pad mem

theorem renderFraction_eq (nanosecond : Nat) :
    renderFraction nanosecond = [] ∨ ∃ places n, renderFraction nanosecond = '.' :: pad places n := by
  unfold renderFraction
  simp only
  split
  next => exact .inl rfl
  next =>
    split
    next => exact .inr ⟨3, _, rfl⟩
    next =>
      split
      next => exact .inr ⟨6, _, rfl⟩
      next => exact .inr ⟨9, _, rfl⟩

theorem quote_render (t : Timestamp) : Json.quote t.render = String.ofList ('"' :: t.render.toList ++ ['"']) := by
  have year : (renderYear t.date.year).flatMap Json.escape = renderYear t.date.year := by
    unfold renderYear
    split
    next => exact flatMap_escape_pad _ _
    next => split <;> exact congrArg _ (flatMap_escape_pad _ _)
  have fraction : (renderFraction t.clock.nanosecond).flatMap Json.escape = renderFraction t.clock.nanosecond := by
    rcases renderFraction_eq t.clock.nanosecond with none | ⟨places, n, digits⟩
    · rw [none]
      rfl
    · rw [digits]
      exact congrArg _ (flatMap_escape_pad places n)
  have dash : Json.escape '-' = ['-'] := rfl
  have colon : Json.escape ':' = [':'] := rfl
  have joint : Json.escape 'T' = ['T'] := rfl
  rw [Json.quote, Timestamp.render, String.toList_ofList]
  simp only [Date.render, Clock.render, List.flatMap_append, List.flatMap_cons, flatMap_escape_pad, year, fraction,
    dash, colon, joint, List.singleton_append]

/-- Timestamps share their text exactly when the same one is written. -/
theorem render_eq_iff {t t' : Timestamp} : t.render = t'.render ↔ t.asWritten = t'.asWritten := by
  refine ⟨fun same => ?_, fun same => ?_⟩
  · have read := read_render t
    rw [same, read_render t'] at read
    exact (Except.ok.inj read).symm
  · rw [← render_asWritten t, same, render_asWritten]

/-- It is no different where the text stands in a document. -/
theorem quote_render_inj {t t' : Timestamp} (same : Json.quote t.render = Json.quote t'.render) :
    t.render = t'.render := by
  rw [quote_render, quote_render, String.ofList_inj, List.cons_append, List.cons_append, List.cons.injEq,
    List.append_left_inj] at same
  exact String.toList_inj.mp same.2

end Timestamp

end TypedSql
