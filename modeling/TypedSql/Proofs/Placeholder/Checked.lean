import Mathlib.Data.Nat.PSub
import Mathlib.Tactic.MkIffOfInductiveProp
import TypedSql.Proofs.Placeholder.Lexing

namespace TypedSql.Placeholder

open Text

/-- A part that can be cut out of a text: its ends are in order, within the text and where characters begin. -/
@[mk_iff]
structure Cut (sql : String) (first last : Nat) : Prop where
  ordered : first ≤ last
  inside : last ≤ sql.utf8ByteSize
  begins : String.Pos.Raw.IsValid sql ⟨first⟩
  ends : String.Pos.Raw.IsValid sql ⟨last⟩

instance (sql : String) (first last : Nat) : Decidable (Cut sql first last) :=
  decidable_of_iff' _ (cut_iff sql first last)

variable {sql : String} {bound : List String} {b : UInt8} {rest : List UInt8} {index first last : Nat}
  {depth : UInt32}

/-! A statement with its variables replaced where every check is made: what cannot be cut out, subtracted or
counted has no value. -/

def slice? (sql : String) (first last : Nat) : Option String :=
  if Cut sql first last then some (slice sql first last) else none

theorem slice?_of_cut (h : Cut sql first last) : slice? sql first last = some (slice sql first last) := if_pos h

example : slice? "@é" 0 2 = none := by decide

def followsIdentifier? (sql : String) (index : Nat) : Option Bool :=
  if index = 0 then some false
  else do
    let before ← index.ppred
    (byte? sql before).map gluesMarker

theorem followsIdentifier?_eq (h : index ≤ sql.utf8ByteSize) :
    followsIdentifier? sql index = some (followsIdentifier sql index) := by
  unfold followsIdentifier? followsIdentifier
  cases index with
  | zero => rfl
  | succ before =>
    have inside : before < sql.utf8ByteSize := h
    simp [byte?, inside]

def deeper? (depth : UInt32) : Option UInt32 :=
  if depth.toNat + 1 < UInt32.size then some (depth + 1) else none

def shallower? (depth : UInt32) : Option UInt32 :=
  if 0 < depth.toNat then some (depth - 1) else none

theorem identifierEnd_of_identifierEnd? (found : identifierEnd? sql index = some last) :
    identifierEnd sql index = last := by
  unfold identifierEnd? at found
  split at found
  next => exact Option.some.inj found
  next => cases found

/-- A variable can be cut out of its statement. -/
theorem cut_variable (h : (utf8 sql).drop index = b :: rest) (marker : b = '@'.toUInt8)
    (found : identifierEnd? sql (index + 1) = some last) : Cut sql index last := by
  have ahead := lt_of_identifierEnd? found
  have ends := identifierEnd_of_identifierEnd? found
  have room := length_of_drop h
  have behind : (utf8 sql).drop (index + 1) = rest := drop_of_drop h 0
  have reach := identifierEnd_eq sql (index + 1)
  have inside := identifierLength_le rest
  rw [ends, behind] at reach
  refine ⟨by omega, ?_, ?_, ?_⟩
  · rw [← length_utf8]
    omega
  · exact isValid_of_ascii (getElem?_of_drop h) (by rw [marker]; decide)
  · exact ends ▸ isValid_identifierEnd (by omega)

namespace Scan

variable {s : Scan}

theorem Sound.cut_copy (sound : s.Sound sql) (h : String.Pos.Raw.IsValid sql ⟨s.index⟩) :
    Cut sql s.copied s.index :=
  ⟨sound.copied_le, length_utf8 sql ▸ sound.index_le, sound.boundary, h⟩

/-- What holds wherever a round begins, and after the last one. -/
structure InRange (sql : String) (s : Scan) : Prop extends Sound sql s where
  depth : ∀ depth, s.region = .blockComment depth → 1 ≤ depth.toNat ∧ depth.toNat ≤ s.index / 2

def replace? (sql : String) (s : Scan) (position last : Nat) : Option Scan := do
  let copy ← slice? sql s.copied s.index
  some { s with
    output? := some (s.output?.getD "" ++ copy ++ positional position)
    copied := last }

theorem replace?_eq (position : Nat) (h : Cut sql s.copied s.index) :
    s.replace? sql position last = some (s.replace sql position last) := by
  unfold replace? replace
  rw [slice?_of_cut h]
  rfl

def pastVariable? (sql : String) (bound : List String) (s : Scan) (last : Nat) : Option Scan := do
  let name ← slice? sql s.index last
  let replaced ←
    match position? bound name with
    | some position => s.replace? sql position last
    | none => some s
  let index ← last.ppred
  some { replaced with index := index }

theorem pastVariable?_eq (copy : Cut sql s.copied s.index) (name : Cut sql s.index last) (ahead : s.index < last) :
    s.pastVariable? sql bound last = some (s.pastVariable sql bound last) := by
  have before : last.ppred = some (last - 1) := Nat.ppred_eq_pred (Nat.zero_lt_of_lt ahead)
  unfold pastVariable? pastVariable
  rw [slice?_of_cut name, before]
  cases found : position? bound (slice sql s.index last) with
  | some position => simp only [Option.bind_eq_bind, Option.bind_some, found, replace?_eq position copy]
  | none => simp only [Option.bind_eq_bind, Option.bind_some, found]

def plainStep? (sql : String) (bound : List String) (s : Scan) (b : UInt8) : Option Scan :=
  if b = '\''.toUInt8 then some { s with region := .quoted .single }
  else if b = '"'.toUInt8 then some { s with region := .quoted .double }
  else if b = '['.toUInt8 then some { s with region := .quoted .bracket }
  else if pairAt sql s.index '-' '-' then some { s with region := .lineComment }
  else if pairAt sql s.index '/' '*' then some { s with region := .blockComment 1, index := s.index + 1 }
  else if pairAt sql s.index '@' '@' then do
    let index ← ((identifierEnd? sql (s.index + 2)).getD (s.index + 2)).ppred
    some { s with index := index }
  else if b = '@'.toUInt8 then do
    let glued ← followsIdentifier? sql s.index
    if glued then some s
    else
      match identifierEnd? sql (s.index + 1) with
      | some last => s.pastVariable? sql bound last
      | none => some s
  else some s

theorem plainStep?_eq (sound : s.Sound sql) (h : (utf8 sql).drop s.index = b :: rest) :
    s.plainStep? sql bound b = some (s.plainStep sql bound b) := by
  have glued := followsIdentifier?_eq (length_utf8 sql ▸ sound.index_le)
  have system : ((identifierEnd? sql (s.index + 2)).getD (s.index + 2)).ppred =
      some ((identifierEnd? sql (s.index + 2)).getD (s.index + 2) - 1) := by
    apply Nat.ppred_eq_pred
    cases found : identifierEnd? sql (s.index + 2) with
    | none => exact Nat.succ_pos _
    | some last => exact Nat.zero_lt_of_lt (lt_of_identifierEnd? found)
  simp only [plainStep?, plainStep, system, glued, Option.bind_eq_bind, Option.bind_some]
  cases free : followsIdentifier sql s.index with
  | true =>
    simp only [Bool.not_true, Bool.and_false, Bool.false_eq_true, if_true, if_false, ite_self, apply_ite some]
  | false =>
    cases found : identifierEnd? sql (s.index + 1) with
    | none => simp only [Bool.false_eq_true, ite_self, apply_ite some]
    | some last =>
      by_cases marker : b = '@'.toUInt8
      · have name := cut_variable h marker found
        have ahead := lt_of_identifierEnd? found
        have past : s.pastVariable? sql bound last = some _ :=
          pastVariable?_eq (sound.cut_copy name.begins) name (by omega)
        simp only [past, decide_eq_true marker, if_pos marker, Bool.not_false, Bool.and_true, Bool.false_eq_true,
          if_true, if_false, apply_ite some]
      · simp only [marker, decide_false, Bool.false_and, Bool.false_eq_true, if_false, apply_ite some]

def blockCommentStep? (sql : String) (depth : UInt32) (s : Scan) : Option Scan :=
  if pairAt sql s.index '/' '*' then do
    let depth ← deeper? depth
    some { s with region := .blockComment depth, index := s.index + 1 }
  else if pairAt sql s.index '*' '/' then do
    let region ← if depth = 1 then some .plain else (shallower? depth).map .blockComment
    some { s with region := region, index := s.index + 1 }
  else some s

theorem blockCommentStep?_eq (small : sql.utf8ByteSize < UInt32.size) (inRange : s.InRange sql)
    (more : s.index < sql.utf8ByteSize) (hr : s.region = .blockComment depth) :
    s.blockCommentStep? sql depth = some (s.blockCommentStep sql depth) := by
  obtain ⟨positive, half⟩ := inRange.depth depth hr
  have deeper : deeper? depth = some (depth + 1) := if_pos (by omega)
  have shallower : shallower? depth = some (depth - 1) := if_pos positive
  simp only [blockCommentStep?, blockCommentStep, deeper, shallower, Option.bind_eq_bind, Option.bind_some,
    Option.map_some]
  by_cases last : depth = 1
  · simp only [if_pos last, apply_ite some]
  · simp only [if_neg last, apply_ite some]

def step? (sql : String) (bound : List String) (s : Scan) (b : UInt8) : Option Scan := do
  let stepped ←
    match s.region with
    | .plain => s.plainStep? sql bound b
    | .quoted quote => some (s.quotedStep sql quote b)
    | .lineComment => some (s.lineCommentStep b)
    | .blockComment depth => s.blockCommentStep? sql depth
  some { stepped with index := stepped.index + 1 }

theorem step?_eq (small : sql.utf8ByteSize < UInt32.size) (inRange : s.InRange sql)
    (more : s.index < sql.utf8ByteSize) (h : (utf8 sql).drop s.index = b :: rest) :
    s.step? sql bound b = some (s.step sql bound b) := by
  unfold step? step
  cases hr : s.region with
  | plain => simp only [plainStep?_eq inRange.toSound h, Option.bind_eq_bind, Option.bind_some]
  | quoted quote => rfl
  | lineComment => rfl
  | blockComment depth =>
    simp only [blockCommentStep?_eq small inRange more hr, Option.bind_eq_bind, Option.bind_some]

theorem region_pastVariable (s : Scan) (last : Nat) : (s.pastVariable sql bound last).region = s.region := by
  unfold pastVariable
  cases position? bound (slice sql s.index last) with
  | some position => rfl
  | none => rfl

theorem region_plainStep (hr : s.region = .plain) (inside : (s.plainStep sql bound b).region = .blockComment depth) :
    depth = 1 ∧ (s.plainStep sql bound b).index = s.index + 1 := by
  revert inside
  unfold plainStep
  repeat' split
  all_goals simp [region_pastVariable, hr, eq_comm]

/-- A round that ends in a comment has opened it, or one within it, or closed one within it, or read on. -/
theorem depth_cases (inside : (s.step sql bound b).region = .blockComment depth) :
    s.region = .plain ∧ depth = 1 ∧ (s.step sql bound b).index = s.index + 2 ∨
      ∃ before, s.region = .blockComment before ∧
        (depth = before + 1 ∧ (s.step sql bound b).index = s.index + 2 ∨
          depth = before - 1 ∧ before ≠ 1 ∨ depth = before) := by
  unfold step at inside ⊢
  cases hr : s.region with
  | plain =>
    simp only [hr] at inside ⊢
    obtain ⟨one, index⟩ := region_plainStep hr inside
    exact Or.inl ⟨trivial, one, congrArg (· + 1) index⟩
  | quoted quote =>
    simp only [hr, quotedStep] at inside
    repeat' split at inside
    all_goals simp [hr] at inside
  | lineComment =>
    simp only [hr, lineCommentStep] at inside
    split at inside
    all_goals simp [hr] at inside
  | blockComment before =>
    refine Or.inr ⟨before, rfl, ?_⟩
    simp only [hr, blockCommentStep] at inside ⊢
    by_cases opens : pairAt sql s.index '/' '*' = true
    · simp only [if_pos opens, Region.blockComment.injEq] at inside ⊢
      exact Or.inl ⟨inside.symm, trivial⟩
    · simp only [if_neg opens] at inside ⊢
      by_cases closes : pairAt sql s.index '*' '/' = true
      · simp only [if_pos closes] at inside
        split at inside
        next => cases inside
        next more => exact Or.inr (Or.inl ⟨(Region.blockComment.inj inside).symm, more⟩)
      · rw [if_neg closes, hr] at inside
        exact Or.inr (Or.inr (Region.blockComment.inj inside).symm)

theorem InRange.start (sql : String) : ({} : Scan).InRange sql :=
  ⟨Sound.start sql, fun _ inside => by cases inside⟩

theorem InRange.step (small : sql.utf8ByteSize < UInt32.size) (inRange : s.InRange sql)
    (more : s.index < sql.utf8ByteSize) (h : (utf8 sql).drop s.index = b :: rest) :
    (s.step sql bound b).InRange sql := by
  refine ⟨inRange.toSound.step h, fun depth inside => ?_⟩
  have ahead := index_lt_step sql bound s b
  -- To go one deeper takes two bytes, and to stay or to come back up takes some.
  rcases depth_cases inside with ⟨_, rfl, index⟩ | ⟨before, hr, change⟩
  · rw [UInt32.toNat_one, index]
    omega
  · obtain ⟨positive, half⟩ := inRange.depth before hr
    rcases change with ⟨rfl, index⟩ | ⟨rfl, nested⟩ | rfl
    · rw [toNat_deeper (by omega), index]
      omega
    · have two : before.toNat ≠ 1 := fun one => nested (UInt32.toNat_inj.mp one)
      rw [toNat_shallower positive]
      omega
    · omega

/-- How a scan stands after so many rounds. -/
inductive Reach (sql : String) (bound : List String) : Nat → Scan → Prop where
  | start : Reach sql bound 0 {}
  | next {rounds : Nat} {s : Scan} (before : Reach sql bound rounds s) (more : s.index < sql.utf8ByteSize) :
    Reach sql bound (rounds + 1) (s.step sql bound (sql.getUTF8Byte ⟨s.index⟩ more))

theorem Reach.inRange (small : sql.utf8ByteSize < UInt32.size) {rounds : Nat} (reach : Reach sql bound rounds s) :
    s.InRange sql ∧ rounds ≤ s.index := by
  induction reach with
  | start => exact ⟨InRange.start sql, Nat.le_refl 0⟩
  | @next rounds s before more ih =>
    obtain ⟨inRange, passed⟩ := ih
    have ahead := index_lt_step sql bound s (sql.getUTF8Byte ⟨s.index⟩ more)
    exact ⟨inRange.step small more (drop_of_lt more), by omega⟩

theorem Reach.run {rounds : Nat} (reach : Reach sql bound rounds s) :
    ∃ rounds, Reach sql bound rounds (Scan.run sql bound s) := by
  fun_induction Scan.run sql bound s generalizing rounds with
  | case1 s more ih => exact ih (reach.next more)
  | case2 => exact ⟨rounds, reach⟩

/-- The scan in no more than so many rounds. -/
def run? (sql : String) (bound : List String) (rounds : Nat) (s : Scan) : Option Scan :=
  if h : s.index < sql.utf8ByteSize then
    match rounds with
    | 0 => none
    | rounds + 1 => do
      let next ← s.step? sql bound (sql.getUTF8Byte ⟨s.index⟩ h)
      run? sql bound rounds next
  else some s

theorem run?_eq (small : sql.utf8ByteSize < UInt32.size) (inRange : s.InRange sql) {rounds : Nat}
    (enough : sql.utf8ByteSize ≤ s.index + rounds) :
    run? sql bound rounds s = some (run sql bound s) := by
  -- The rounds that are left suffice, as each takes the index nearer to the end by one at least.
  fun_induction Scan.run sql bound s generalizing rounds with
  | case1 s more ih =>
    have here := drop_of_lt more
    have ahead := index_lt_step sql bound s (sql.getUTF8Byte ⟨s.index⟩ more)
    cases rounds with
    | zero => omega
    | succ rounds =>
      rw [run?, dif_pos more, step?_eq small inRange more here]
      exact ih (inRange.step small more here) (by omega)
  | case2 s done => rw [run?, dif_neg done]

end Scan

def checkedSubstitute? (sql : String) (bound : List String) : Option (Option String) :=
  if bound.isEmpty then some none
  else do
    let s ← Scan.run? sql bound sql.utf8ByteSize {}
    match s.output? with
    | some output => do
      let rest ← slice? sql s.copied sql.utf8ByteSize
      some (some (output ++ rest))
    | none => some none

theorem checkedSubstitute?_eq (small : sql.utf8ByteSize < UInt32.size) :
    checkedSubstitute? sql bound = some (substitute? sql bound) := by
  obtain ⟨sound, _⟩ : (Scan.run sql bound {}).Sound sql ∧ _ := (Scan.Sound.start sql).run
  have cut : Cut sql (Scan.run sql bound {}).copied sql.utf8ByteSize :=
    ⟨Nat.le_trans sound.copied_le (length_utf8 sql ▸ sound.index_le), Nat.le_refl _, sound.boundary,
      isValid_of_ge (length_utf8 sql).symm⟩
  have run : Scan.run? sql bound sql.utf8ByteSize {} = some (Scan.run sql bound {}) :=
    Scan.run?_eq small (Scan.InRange.start sql) (Nat.le_add_left _ _)
  unfold checkedSubstitute? substitute?
  cases bound.isEmpty with
  | true => rfl
  | false =>
    simp only [Bool.false_eq_true, if_false, run, Option.bind_eq_bind, Option.bind_some, slice?_of_cut cut]
    cases (Scan.run sql bound {}).output? with
    | some output => rfl
    | none => rfl

/-- Wherever a round begins, the copy reaches no further than the scan and the scan no further than the
text, and open comments are counted from one up to half of the bytes read; the round goes ahead, and
everything in it can be cut out, subtracted and counted. The scan ends where the text does, after no more
rounds than the text has bytes, and with every check made the same comes out as without. -/
theorem scan_stays_in_range {sql : String} {bound : List String} (small : sql.utf8ByteSize < UInt32.size) :
    (∀ rounds s, Scan.Reach sql bound rounds s →
      s.InRange sql ∧ rounds ≤ s.index ∧
        ∀ more : s.index < sql.utf8ByteSize,
          let b := sql.getUTF8Byte ⟨s.index⟩ more
          s.index < (s.step sql bound b).index ∧ s.step? sql bound b = some (s.step sql bound b)) ∧
    (∃ rounds ≤ sql.utf8ByteSize, Scan.Reach sql bound rounds (Scan.run sql bound {}) ∧
      (Scan.run sql bound {}).index = sql.utf8ByteSize) ∧
    checkedSubstitute? sql bound = some (substitute? sql bound) := by
  refine ⟨fun rounds s reach => ?_, ?_, checkedSubstitute?_eq small⟩
  · obtain ⟨inRange, passed⟩ := reach.inRange small
    refine ⟨inRange, passed, fun more => ⟨Scan.index_lt_step sql bound s _, ?_⟩⟩
    exact Scan.step?_eq small inRange more (Scan.drop_of_lt more)
  · obtain ⟨rounds, reach⟩ := (@Scan.Reach.start sql bound).run
    obtain ⟨inRange, passed⟩ := reach.inRange small
    have ends := Scan.index_run sql bound
    exact ⟨rounds, ends ▸ passed, reach, ends⟩

theorem scan_stays_in_range_beyond_ascii :
    "/*/*é*/*/@é+@@a".utf8ByteSize < UInt32.size ∧
      checkedSubstitute? "/*/*é*/*/@é+@@a" ["@é"] = some (some "/*/*é*/*/@P1+@@a") ∧
      (Scan.run "/*/*é*/*/@é+@@a" ["@é"] {}).index = 17 := by
  have small : "/*/*é*/*/@é+@@a".utf8ByteSize < UInt32.size := by decide
  obtain ⟨_, ⟨_, _, _, ends⟩, same⟩ := @scan_stays_in_range _ ["@é"] small
  exact ⟨small, same.trans (congrArg some (by decide +kernel)), ends⟩

end TypedSql.Placeholder
