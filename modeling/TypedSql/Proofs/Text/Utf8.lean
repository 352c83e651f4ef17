import TypedSql.Name

namespace TypedSql.Text

def utf8 (s : String) : List UInt8 := s.toByteArray.data.toList

def lowerByte (b : UInt8) : UInt8 :=
  if 'A'.toUInt8 ≤ b && b ≤ 'Z'.toUInt8 then b + 32 else b

theorem length_utf8 (s : String) : (utf8 s).length = s.utf8ByteSize := rfl

theorem utf8_append (s t : String) : utf8 (s ++ t) = utf8 s ++ utf8 t := by
  unfold utf8
  rw [String.toByteArray_append, ByteArray.toList_data_append]

theorem utf8_inj {s t : String} : utf8 s = utf8 t ↔ s = t := by
  refine ⟨fun h => ?_, fun h => by rw [h]⟩
  apply String.toByteArray_inj.mp
  exact congrArg ByteArray.mk (Array.toList_inj.mp h)

theorem utf8_ofList (cs : List Char) : utf8 (String.ofList cs) = cs.flatMap String.utf8EncodeChar := by
  unfold utf8
  rw [String.toByteArray_ofList, List.utf8Encode, List.data_toByteArray]

theorem utf8_eq_flatMap (s : String) : utf8 s = s.toList.flatMap String.utf8EncodeChar := by
  rw [← utf8_ofList, String.ofList_toList]

/-- Beyond ASCII every byte of a character is beyond ASCII. -/
theorem le_of_mem_utf8EncodeChar {c : Char} {b : UInt8} (hc : 128 ≤ c.toNat)
    (hb : b ∈ String.utf8EncodeChar c) : 128 ≤ b := by
  have hv : ¬c.val.toNat ≤ 0x7f := by
    have : c.toNat = c.val.toNat := rfl
    omega
  simp only [String.utf8EncodeChar, if_neg hv] at hb
  rw [UInt8.le_iff_toNat_le]
  split at hb
  next =>
    simp only [List.mem_cons, List.not_mem_nil, or_false] at hb
    rcases hb with rfl | rfl <;> simp <;> omega
  next =>
    split at hb
    next =>
      simp only [List.mem_cons, List.not_mem_nil, or_false] at hb
      rcases hb with rfl | rfl | rfl <;> simp <;> omega
    next =>
      simp only [List.mem_cons, List.not_mem_nil, or_false] at hb
      rcases hb with rfl | rfl | rfl | rfl <;> simp <;> omega

/-- What is checked for all characters of ASCII. -/
theorem forall_ascii {P : Char → Prop} (table : ∀ n : Fin 128, P (Char.ofNat n.val)) {c : Char}
    (ascii : c.toNat < 128) : P c := by
  simpa only [Char.ofNat_toNat] using table ⟨c.toNat, ascii⟩

theorem utf8EncodeChar_of_lt {c : Char} (ascii : c.toNat < 128) : String.utf8EncodeChar c = [c.toUInt8] :=
  forall_ascii (P := fun c => String.utf8EncodeChar c = [c.toUInt8]) (by decide) ascii

theorem toNat_toUInt8 {c : Char} (ascii : c.toNat < 128) : c.toUInt8.toNat = c.toNat :=
  forall_ascii (P := fun c => c.toUInt8.toNat = c.toNat) (by decide) ascii

/-- A byte of ASCII in a text is a character of it. -/
theorem mem_utf8 {s : String} {c : Char} (ascii : c.toNat < 128) : c.toUInt8 ∈ utf8 s ↔ c ∈ s.toList := by
  rw [utf8_eq_flatMap, List.mem_flatMap]
  constructor
  · intro ⟨d, there, byte⟩
    have small := toNat_toUInt8 ascii
    by_cases ascii' : d.toNat < 128
    · rw [utf8EncodeChar_of_lt ascii', List.mem_singleton] at byte
      have same : c.toNat = d.toNat := by rw [← small, byte, toNat_toUInt8 ascii']
      rwa [Char.toNat_inj.mp same]
    · have large := UInt8.le_iff_toNat_le.mp (le_of_mem_utf8EncodeChar (by omega) byte)
      have : (128 : UInt8).toNat = 128 := rfl
      omega
  · intro there
    exact ⟨c, there, by rw [utf8EncodeChar_of_lt ascii]; exact List.mem_singleton_self _⟩
theorem head?_utf8 {s : String} {c : Char} (ascii : c.toNat < 128) (first : s.toList.head? = some c) :
    (utf8 s).head? = some c.toUInt8 := by
  obtain ⟨rest, chars⟩ := List.head?_eq_some_iff.mp first
  rw [utf8_eq_flatMap, chars, List.flatMap_cons, utf8EncodeChar_of_lt ascii]
  rfl

theorem getLast?_utf8 {s : String} {c : Char} (ascii : c.toNat < 128) (last : s.toList.getLast? = some c) :
    (utf8 s).getLast? = some c.toUInt8 := by
  obtain ⟨front, chars⟩ := List.getLast?_eq_some_iff.mp last
  rw [utf8_eq_flatMap, chars, List.flatMap_append, List.flatMap_singleton, utf8EncodeChar_of_lt ascii,
    List.getLast?_concat]

theorem lowerByte_of_le {b : UInt8} (hb : 128 ≤ b) : lowerByte b = b := by
  have hz : ¬b ≤ 'Z'.toUInt8 := by
    rw [UInt8.le_iff_toNat_le] at hb ⊢
    have : (128 : UInt8).toNat = 128 := rfl
    have : 'Z'.toUInt8.toNat = 90 := rfl
    omega
  simp [lowerByte, hz]

theorem utf8EncodeChar_lowerAscii (c : Char) :
    String.utf8EncodeChar (Name.lowerAscii c) = (String.utf8EncodeChar c).map lowerByte := by
  by_cases hc : c.toNat < 128
  · exact forall_ascii (P := fun c => String.utf8EncodeChar (Name.lowerAscii c) =
      (String.utf8EncodeChar c).map lowerByte) (by decide) hc
  · have hz : ¬c ≤ 'Z' := by
      rw [Char.le_def, UInt32.le_iff_toNat_le]
      have : c.toNat = c.val.toNat := rfl
      simp
      omega
    have same : Name.lowerAscii c = c := by simp [Name.lowerAscii, hz]
    have unchanged : ∀ b ∈ String.utf8EncodeChar c, lowerByte b = id b := fun b hb =>
      lowerByte_of_le (le_of_mem_utf8EncodeChar (by omega) hb)
    rw [same, List.map_congr_left unchanged, List.map_id]

theorem sameIgnoringCase_iff {s t : String} :
    Name.sameIgnoringCase s t = true ↔ (utf8 s).map lowerByte = (utf8 t).map lowerByte := by
  have lowered : ∀ u : String,
      (utf8 u).map lowerByte = utf8 (String.ofList (u.toList.map Name.lowerAscii)) := by
    intro u
    rw [utf8_ofList, utf8_eq_flatMap, List.map_flatMap, List.flatMap_map]
    simp only [utf8EncodeChar_lowerAscii]
  rw [lowered, lowered, utf8_inj, String.ofList_inj]
  simp [Name.sameIgnoringCase]

end TypedSql.Text
