import TypedSql.Proofs.Placeholder.Round

namespace TypedSql.Placeholder

open Text

namespace Scan

variable {sql : String} {bound : List String} {s : Scan} {b : UInt8} {rest : List UInt8}

def outcome (s : Scan) (bs : List UInt8) (bound : List String) : List UInt8 × Bool :=
  pending bs bound s.output? s.copied (s.resume bs)

theorem resume_step (h : (utf8 sql).drop s.index = b :: rest) (hr : s.region ≠ .plain)
    (hb : s.region = .lineComment → b ≠ '\n'.toUInt8) :
    (s.step sql bound b).resume (utf8 sql) = s.resume (utf8 sql) := by
  cases region : s.region with
  | plain => exact absurd region hr
  | quoted quote => exact resume_quotedStep region h
  | lineComment => exact resume_lineCommentStep region h (hb region)
  | blockComment depth => exact resume_blockCommentStep region h

theorem length_of_measureAt {bs : List UInt8} {index extra : Nat} {kind : TokenKind}
    (hm : measureAt bs index b rest = (kind, extra)) : (b :: rest.take extra).length = 1 + extra := by
  have inside := measureAt_le bs index b rest
  rw [hm] at inside
  rw [List.length_cons, List.length_take, Nat.min_eq_left inside, Nat.add_comm]

/-- A round goes on within a token, or it reads or enters the token that begins where the scan stands. -/
theorem round_cases (s : Scan) (bound : List String) (h : (utf8 sql).drop s.index = b :: rest) :
    ((s.step sql bound b).resume (utf8 sql) = s.resume (utf8 sql) ∧
        (s.step sql bound b).output? = s.output? ∧ (s.step sql bound b).copied = s.copied) ∨
      (s.resume (utf8 sql) = s.index ∧ ∃ kind extra, measureAt (utf8 sql) s.index b rest = (kind, extra) ∧
        PlainRound sql bound s (s.step sql bound b) kind (b :: rest.take extra)) := by
  by_cases hr : s.region = .plain
  · have start : s.resume (utf8 sql) = s.index := by simp only [resume, hr, Region.extent, Nat.add_zero]
    exact Or.inr ⟨start, _, _, rfl, plainRound hr h rfl⟩
  · obtain ⟨output, copied⟩ : (s.step sql bound b).output? = s.output? ∧ _ := step_copy hr b
    by_cases ends : s.region = .lineComment ∧ b = '\n'.toUInt8
    · -- The end of a line is a token of its own.
      have line : measureAt (utf8 sql) s.index b rest = (.other, 0) := by
        rw [ends.2]
        rfl
      have start : s.resume (utf8 sql) = s.index := by
        simp only [resume, ends.1, h, Region.extent, lineLength, ends.2]
        rfl
      refine Or.inr ⟨start, _, _, line, ?_, Or.inl ⟨by simp [Token.position?], output, copied⟩⟩
      simp only [resume, step, ends.1, lineCommentStep, if_pos ends.2, Region.extent, Nat.add_zero,
        List.take_zero, List.length_singleton]
    · exact Or.inl ⟨resume_step h hr fun line hb => ends ⟨line, hb⟩, output, copied⟩

theorem outcome_step (sound : s.Sound sql) (h : (utf8 sql).drop s.index = b :: rest) :
    (s.step sql bound b).outcome (utf8 sql) bound = s.outcome (utf8 sql) bound := by
  rcases round_cases s bound h with ⟨resume, output, copied⟩ | ⟨start, kind, extra, hm, round⟩
  · unfold outcome
    rw [output, copied, resume]
  · have length := length_of_measureAt hm
    have reached := round.resume_eq
    rw [length, ← Nat.add_assoc] at reached
    unfold outcome
    rw [start, reached]
    rcases round.copy_eq with ⟨unbound, output, copied⟩ | ⟨position, found, output, copied, _, valid, _⟩
    · rw [output, copied, pending_of_unbound h hm sound.copied_le unbound]
    · rw [length, ← Nat.add_assoc] at copied
      rw [output, copied]
      symm
      apply pending_of_bound h hm found
      rw [utf8_append, utf8_append, utf8_slice sound.boundary valid]

theorem Sound.step (sound : s.Sound sql) (h : (utf8 sql).drop s.index = b :: rest) :
    (s.step sql bound b).Sound sql := by
  have ahead := index_lt_step sql bound s b
  have before := sound.copied_le
  have here := index_le_resume (s.step sql bound b) (utf8 sql)
  rcases round_cases s bound h with ⟨resume, _, copied⟩ | ⟨_, kind, extra, hm, round⟩
  · have inside := resume_le sound.index_le
    exact ⟨by omega, by omega, copied ▸ sound.boundary⟩
  · have reached := round.resume_eq
    have room := length_of_drop h
    have inside := measureAt_le (utf8 sql) s.index b rest
    rw [hm] at inside
    rw [length_of_measureAt hm] at reached
    rcases round.copy_eq with ⟨_, _, copied⟩ | ⟨_, _, _, copied, index, _, valid⟩
    · exact ⟨by omega, by omega, copied ▸ sound.boundary⟩
    · exact ⟨by omega, by omega, valid⟩

theorem drop_of_lt {sql : String} {index : Nat} (h : index < sql.utf8ByteSize) :
    (utf8 sql).drop index = sql.getUTF8Byte ⟨index⟩ h :: (utf8 sql).drop (index + 1) :=
  List.drop_eq_getElem_cons (show index < (utf8 sql).length from h)

theorem Sound.run (sound : s.Sound sql) :
    (Scan.run sql bound s).Sound sql ∧ sql.utf8ByteSize ≤ (Scan.run sql bound s).index := by
  fun_induction Scan.run sql bound s with
  | case1 s h ih => exact ih (sound.step (drop_of_lt h))
  | case2 s h => exact ⟨sound, Nat.le_of_not_lt h⟩

theorem outcome_run (sound : s.Sound sql) :
    (Scan.run sql bound s).outcome (utf8 sql) bound = s.outcome (utf8 sql) bound := by
  -- What a round adds to the copy it takes from what is still to come, so both together stay the same.
  fun_induction Scan.run sql bound s with
  | case1 s h ih =>
    have here := drop_of_lt h
    rw [ih (sound.step here), outcome_step sound here]
  | case2 => rfl

theorem Sound.start (sql : String) : ({} : Scan).Sound sql where
  copied_le := Nat.le_refl _
  index_le := Nat.zero_le _
  boundary := String.Pos.Raw.isValid_zero

/-- The scan ends where the statement does. -/
theorem index_run (sql : String) (bound : List String) : (Scan.run sql bound {}).index = sql.utf8ByteSize := by
  obtain ⟨sound, done⟩ : (Scan.run sql bound {}).Sound sql ∧ _ := (Sound.start sql).run
  exact Nat.le_antisymm (length_utf8 sql ▸ sound.index_le) done

theorem outcome_start (sql : String) (bound : List String) :
    ({} : Scan).outcome (utf8 sql) bound =
      ((scanned sql).flatMap (Token.render bound),
        (scanned sql).any fun t => (t.position? bound).isSome) := rfl

/-- At the end of the statement nothing is left to come but the rest of the copy. -/
theorem outcome_end (sound : s.Sound sql) (done : sql.utf8ByteSize ≤ s.index) :
    s.outcome (utf8 sql) bound =
      (utf8 (s.output?.getD "" ++ slice sql s.copied sql.utf8ByteSize), s.output?.isSome) := by
  have all : s.index = (utf8 sql).length := Nat.le_antisymm sound.index_le done
  have place : s.resume (utf8 sql) = (utf8 sql).length :=
    Nat.le_antisymm (resume_le sound.index_le) (all ▸ index_le_resume s (utf8 sql))
  have none : lexAt (utf8 sql) (utf8 sql).length = [] := by
    unfold lexAt
    rw [List.drop_length, lex]
  have copy : utf8 (slice sql s.copied sql.utf8ByteSize) = _ :=
    utf8_slice sound.boundary (isValid_of_ge (length_utf8 sql).symm)
  rw [← length_utf8] at copy ⊢
  simp only [outcome, pending, place, none, utf8_append, copy, List.flatMap_nil, List.append_nil,
    List.any_nil, Bool.or_false]

end Scan

variable {sql : String} {bound : List String}

theorem Token.position?_nil (t : Token) : t.position? [] = none := by
  simp [Token.position?]

theorem render_scanned_of_unbound (h : ∀ t ∈ scanned sql, t.position? bound = none) :
    (scanned sql).flatMap (Token.render bound) = utf8 sql := by
  have same : (scanned sql).flatMap (Token.render bound) = (scanned sql).flatMap (·.text) := by
    rw [List.flatMap_def, List.flatMap_def]
    exact congrArg _ (List.map_congr_left fun t ht => Token.render_of_unbound (h t ht))
  rw [same]
  exact flatMap_lex _ none (utf8 sql)

/-- Scanning a statement and cutting it into the tokens that the scan finds come to the same. -/
theorem substitute?_spec (sql : String) (bound : List String) :
    utf8 (substitute sql bound) = (scanned sql).flatMap (Token.render bound) ∧
      (substitute? sql bound).isSome = (scanned sql).any fun t => (t.position? bound).isSome := by
  by_cases hb : bound = []
  · subst hb
    refine ⟨(render_scanned_of_unbound fun t _ => t.position?_nil).symm, ?_⟩
    simp [substitute?, Token.position?_nil]
  · have start := Scan.Sound.start sql
    obtain ⟨sound, done⟩ : (Scan.run sql bound {}).Sound sql ∧ _ := start.run
    have same : (Scan.run sql bound {}).outcome (utf8 sql) bound = _ := Scan.outcome_run start
    rw [Scan.outcome_start, Scan.outcome_end sound done, Prod.mk.injEq] at same
    obtain ⟨text, replaced⟩ := same
    have isEmpty : bound.isEmpty = false := List.isEmpty_eq_false_iff.mpr hb
    simp only [substitute, substitute?, isEmpty, Bool.false_eq_true, if_false]
    cases ho : (Scan.run sql bound {}).output? with
    | some output =>
      simp only [ho, Option.getD_some, Option.isSome_some] at text replaced
      exact ⟨text, replaced⟩
    | none =>
      simp only [ho, Option.isSome_none] at replaced
      refine ⟨?_, replaced⟩
      rw [Option.map_none, Option.getD_none]
      apply (render_scanned_of_unbound _).symm
      intro t ht
      have := List.any_eq_false.mp replaced.symm t ht
      simpa only [Bool.not_eq_true, Option.isSome_eq_false_iff, Option.isNone_iff_eq_none] using this

theorem substitute?_eq_none_iff : substitute? sql bound = none ↔ ∀ t ∈ scanned sql, t.position? bound = none := by
  rw [← Option.isSome_eq_false_iff.trans Option.isNone_iff_eq_none, (substitute?_spec sql bound).2,
    List.any_eq_false]
  simp only [Bool.not_eq_true, Option.isSome_eq_false_iff, Option.isNone_iff_eq_none]

/-- A statement comes out as its tokens, each bound variable replaced by its position and everything
else as it stands; it is borrowed exactly if none of its tokens is a bound variable. -/
theorem substitute_lexes {sql : String} {bound : List String} (small : sql.utf8ByteSize < UInt32.size) :
    utf8 (substitute sql bound) = (tokens sql).flatMap (Token.render bound) ∧
      (tokens sql).flatMap (·.text) = utf8 sql ∧
      (substitute? sql bound = none ↔ ∀ t ∈ tokens sql, t.position? bound = none) := by
  rw [← scanned_eq_tokens small]
  exact ⟨(substitute?_spec sql bound).1, flatMap_lex _ none (utf8 sql), substitute?_eq_none_iff⟩

theorem substitute_lexes_quoted_and_free :
    "SET @@id = '@Id', x = @id".utf8ByteSize < UInt32.size ∧
      utf8 (substitute "SET @@id = '@Id', x = @id" ["@Other", "@Id"]) =
        utf8 "SET @@id = '@Id', x = @P2" ∧
      substitute? "SET @@id = '@Id', x = @id" ["@Other", "@Id"] ≠ none := by
  have small : "SET @@id = '@Id', x = @id".utf8ByteSize < UInt32.size := by decide
  obtain ⟨text, _, borrowed⟩ := @substitute_lexes _ ["@Other", "@Id"] small
  refine ⟨small, ?_, ?_⟩
  · rw [text]
    decide +kernel
  · rw [Ne, borrowed]
    decide +kernel

end TypedSql.Placeholder
