import TypedSql.Proofs.Placeholder.Token

namespace TypedSql.Placeholder

open Text

theorem byte?_eq (sql : String) (index : Nat) : byte? sql index = (utf8 sql)[index]? := by
  unfold byte?
  split
  next h =>
    have hl : index < (utf8 sql).length := h
    rw [List.getElem?_eq_getElem hl]
    rfl
  next h =>
    have hl : (utf8 sql).length ≤ index := Nat.le_of_not_lt h
    rw [List.getElem?_eq_none hl]

theorem isValid_of_ascii {sql : String} {index : Nat} {b : UInt8}
    (hb : (utf8 sql)[index]? = some b) (ascii : b < 128) : String.Pos.Raw.IsValid sql ⟨index⟩ := by
  obtain ⟨hl, he⟩ := List.getElem?_eq_some_iff.mp hb
  apply String.Pos.Raw.isValid_iff_isUTF8FirstByte.mpr
  refine Or.inr ⟨hl, ?_⟩
  have same : sql.getUTF8Byte ⟨index⟩ hl = b := he
  rw [same]
  have table : ∀ n : Fin 128, (UInt8.ofNat n.val).IsUTF8FirstByte := by decide
  have := table ⟨b.toNat, ascii⟩
  simpa only [UInt8.ofNat_toNat] using this

theorem isValid_of_ge {sql : String} {index : Nat} (h : index = (utf8 sql).length) :
    String.Pos.Raw.IsValid sql ⟨index⟩ := by
  subst h
  exact String.Pos.Raw.isValid_rawEndPos

/-- A text between two places where characters begin consists of the bytes between them. -/
theorem utf8_slice {sql : String} {first last : Nat}
    (hf : String.Pos.Raw.IsValid sql ⟨first⟩) (hl : String.Pos.Raw.IsValid sql ⟨last⟩) :
    utf8 (slice sql first last) = ((utf8 sql).drop first).take (last - first) := by
  unfold slice utf8
  rw [dif_pos ⟨hf, hl⟩, String.toByteArray_extract, ByteArray.data_extract, Array.toList_extract]
  simp only [String.offset_pos, List.extract_eq_take_drop]

theorem pairAt_iff {sql : String} {index : Nat} {first second : Char} :
    pairAt sql index first second = true ↔
      (utf8 sql)[index]? = some first.toUInt8 ∧ (utf8 sql)[index + 1]? = some second.toUInt8 := by
  simp [pairAt, byte?_eq]

theorem followsIdentifier_eq (sql : String) (index : Nat) (h : index ≤ (utf8 sql).length) :
    followsIdentifier sql index = ((utf8 sql).take index).getLast?.any gluesMarker := by
  unfold followsIdentifier
  rw [byte?_eq, List.getLast?_eq_getElem?, List.length_take, Nat.min_eq_left h]
  cases index with
  | zero => simp
  | succ index => simp

theorem getElem?_of_drop {bs rest : List UInt8} {b : UInt8} {index : Nat}
    (h : bs.drop index = b :: rest) : bs[index]? = some b := by
  rw [← List.head?_drop, h, List.head?_cons]

theorem drop_of_drop {bs rest : List UInt8} {b : UInt8} {index : Nat}
    (h : bs.drop index = b :: rest) (more : Nat) :
    bs.drop (index + 1 + more) = rest.drop more := by
  rw [Nat.add_assoc, ← List.drop_drop, h, Nat.add_comm 1 more, List.drop_succ_cons]

theorem length_of_drop {bs rest : List UInt8} {b : UInt8} {index : Nat}
    (h : bs.drop index = b :: rest) : bs.length = index + 1 + rest.length := by
  have := congrArg List.length h
  simp only [List.length_drop, List.length_cons] at this
  omega

theorem pairAt_of_drop {sql : String} {rest : List UInt8} {b : UInt8} {index : Nat}
    (h : (utf8 sql).drop index = b :: rest) (first second : Char) :
    pairAt sql index first second = true ↔
      b = first.toUInt8 ∧ rest.head? = some second.toUInt8 := by
  rw [pairAt_iff, getElem?_of_drop h, ← List.head?_drop, drop_of_drop h 0, List.drop_zero,
    Option.some.injEq]

theorem identifierEnd_eq (sql : String) (index : Nat) :
    identifierEnd sql index = index + identifierLength ((utf8 sql).drop index) := by
  fun_induction identifierEnd sql index with
  | case1 index h ih =>
    have hl : index < (utf8 sql).length := h.1
    have ident : isIdentifier (utf8 sql)[index] = true := by
      simpa [byte?_eq, List.getElem?_eq_getElem hl] using h.2
    rw [ih, List.drop_eq_getElem_cons hl]
    simp only [identifierLength, List.takeWhile_cons, ident, if_true, List.length_cons]
    omega
  | case2 index h =>
    by_cases hl : index < (utf8 sql).length
    · have stops : isIdentifier (utf8 sql)[index] = false := by
        rw [byte?_eq, List.getElem?_eq_getElem hl, Option.any_some] at h
        exact Bool.eq_false_iff.mpr fun ident => h ⟨hl, ident⟩
      rw [List.drop_eq_getElem_cons hl, identifierLength,
        List.takeWhile_cons_of_neg (by simp [stops])]
      rfl
    · simp [identifierLength, List.drop_eq_nil_of_le (Nat.le_of_not_lt hl)]

theorem identifierEnd?_eq (sql : String) (index : Nat) :
    identifierEnd? sql index =
      if 0 < identifierLength ((utf8 sql).drop index) then
        some (index + identifierLength ((utf8 sql).drop index))
      else none := by
  unfold identifierEnd?
  rw [identifierEnd_eq]
  simp only [Nat.lt_add_right_iff_pos]

theorem lt_of_not_isIdentifier {b : UInt8} (h : isIdentifier b = false) : b < 128 := by
  simp only [isIdentifier, Bool.or_eq_false_iff, decide_eq_false_iff_not] at h
  rw [UInt8.lt_iff_toNat_lt]
  rw [UInt8.le_iff_toNat_le] at h
  omega

theorem isValid_identifierEnd {sql : String} {index : Nat} (h : index ≤ (utf8 sql).length) :
    String.Pos.Raw.IsValid sql ⟨identifierEnd sql index⟩ := by
  fun_induction identifierEnd sql index with
  | case1 index inside ih => exact ih inside.1
  | case2 index outside =>
    by_cases hl : index < (utf8 sql).length
    · have hb : (utf8 sql)[index]? = some (utf8 sql)[index] := List.getElem?_eq_getElem hl
      rw [byte?_eq, hb, Option.any_some] at outside
      apply isValid_of_ascii hb
      apply lt_of_not_isIdentifier
      exact Bool.eq_false_iff.mpr fun ident => outside ⟨hl, ident⟩
    · exact isValid_of_ge (by omega)

end TypedSql.Placeholder
