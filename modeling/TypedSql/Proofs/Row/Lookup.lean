import TypedSql.Proofs.Json.Members
import TypedSql.Row

namespace TypedSql

variable {β : Type} {names : List String} {values : List Value} {name column : String} {i : Nat}

/-- The place of the last of some names that is a given one. -/
def IsLastAt (names : List String) (name : String) (i : Nat) : Prop :=
  names[i]? = some name ∧ ∀ j, i < j → names[j]? ≠ some name

/-- The place of the first of some names that is a given one up to the case of ASCII letters. -/
def IsFirstLike (names : List String) (name : String) (i : Nat) : Prop :=
  (∃ own, names[i]? = some own ∧ Name.sameIgnoringCase own name = true) ∧
    ∀ j own, j < i → names[j]? = some own → Name.sameIgnoringCase own name = false

theorem IsLastAt.lt_length (last : IsLastAt names name i) : i < names.length :=
  (List.getElem?_eq_some_iff.mp last.1).1

theorem exists_isLastAt (mem : name ∈ names) : ∃ i, IsLastAt names name i := by
  induction names with
  | nil => cases mem
  | cons first rest ih =>
    by_cases later : name ∈ rest
    · obtain ⟨i, there, last⟩ := ih later
      refine ⟨i + 1, there, fun j above => ?_⟩
      cases j with
      | zero => omega
      | succ j => exact last j (by omega)
    · have here : name = first := (List.mem_cons.mp mem).resolve_right later
      refine ⟨0, congrArg some here.symm, fun j above again => ?_⟩
      cases j with
      | zero => omega
      | succ j => exact later (List.mem_of_getElem? again)

/-- What stands beside the last of the names is the last that is found under it. -/
theorem findRev?_zip (last : IsLastAt names name i) {others : List β} (wide : names.length ≤ others.length) :
    ((names.zip others).findRev? (·.1 = name)).map (·.2) = others[i]? := by
  induction names generalizing i others with
  | nil => cases last.1
  | cons first rest ih =>
    cases others with
    | nil => simp at wide
    | cons other others =>
      have wide : rest.length ≤ others.length := by simpa using wide
      rw [List.zip_cons_cons, List.findRev?]
      cases i with
      | zero =>
        have here : first = name := Option.some.inj last.1
        have absent : (rest.zip others).findRev? (·.1 = name) = none := by
          rw [List.findRev?_eq_find?_reverse, List.find?_eq_none]
          intro pair mem same
          have again : name ∈ rest := of_decide_eq_true same ▸ (List.of_mem_zip (List.mem_reverse.mp mem)).1
          obtain ⟨j, there⟩ := List.mem_iff_getElem?.mp again
          exact last.2 (j + 1) (Nat.succ_pos j) there
        rw [absent]
        simp [here]
      | succ i =>
        have later : IsLastAt rest name i := ⟨last.1, fun j above => last.2 (j + 1) (Nat.succ_lt_succ above)⟩
        have found := ih later wide
        have bound := later.lt_length
        rw [List.getElem?_eq_getElem (by omega)] at found
        obtain ⟨pair, there, same⟩ := Option.map_eq_some_iff.mp found
        simp only [there, Option.map_some, same, List.getElem?_cons_succ]
        exact (List.getElem?_eq_getElem (by omega)).symm

namespace Header

theorem find?_ordinals (last : IsLastAt names name i) : Entries.find? name (ofNames names).ordinals = some i := by
  have ordinals : (ofNames names).ordinals = Entries.putAll [] names.zipIdx := rfl
  have wide : names.length ≤ (List.range' 0 names.length).length := Nat.le_of_eq List.length_range'.symm
  rw [ordinals, Entries.find?_putAll, List.zipIdx_eq_zip_range', findRev?_zip last wide,
    List.getElem?_range' last.lt_length]
  simp

theorem find?_ordinals_of_not_mem (absent : name ∉ names) :
    Entries.find? name (ofNames names).ordinals = none := by
  have ordinals : (ofNames names).ordinals = Entries.putAll [] names.zipIdx := rfl
  rw [ordinals, Entries.find?_eq_none_iff, Entries.names_putAll_nil, List.zipIdx_map_fst, List.mem_eraseDups]
  exact absent

end Header

namespace Row

/-- The value of a column; of columns with one name the last counts. -/
def last? (r : Row) (column : String) : Option Value := (r.pairs.findRev? (·.1 = column)).map (·.2)

theorem find?_toJson (r : Row) (name : String) :
    (Entries.find? name (Json.sortMembers (r.pairs.map fun (name, value) => (name, value.toJson)))) =
      (r.last? name).map Value.toJson := by
  rw [Json.find?_sortMembers, findRev?_map, last?, Option.map_map, Option.map_map]
  rfl

theorem isSome_last?_iff (r : Row) (name : String) :
    (r.last? name).isSome = true ↔ name ∈ r.pairs.map (·.1) := by
  have found := Entries.find?_putAll name [] r.pairs
  have nothing : Entries.find? name ([] : List (String × Value)) = none := rfl
  rw [nothing, Option.or_none] at found
  rw [last?, ← found, Entries.isSome_find?_iff, Entries.names_putAll_nil, List.mem_eraseDups]

theorem ordinal?_of_isLastAt (last : IsLastAt names column i) :
    (ofColumns names values).ordinal? column = some i := by
  have found : Entries.find? column (ofColumns names values).header.ordinals = some i :=
    Header.find?_ordinals last
  rw [ordinal?, found]

theorem ordinal?_of_not_mem (absent : column ∉ names) :
    (ofColumns names values).ordinal? column = names.findIdx? (Name.sameIgnoringCase · column) := by
  have unfound : Entries.find? column (ofColumns names values).header.ordinals = none :=
    Header.find?_ordinals_of_not_mem absent
  rw [ordinal?, unfound]
  rfl

theorem findIdx?_eq_some_iff :
    names.findIdx? (Name.sameIgnoringCase · name) = some i ↔ IsFirstLike names name i := by
  rw [List.findIdx?_eq_some_iff_getElem]
  constructor
  · rintro ⟨bound, same, before⟩
    refine ⟨⟨_, List.getElem?_eq_getElem bound, same⟩, fun j own earlier there => ?_⟩
    obtain ⟨_, rfl⟩ := List.getElem?_eq_some_iff.mp there
    exact Bool.eq_false_iff.mpr (before j earlier)
  · rintro ⟨⟨own, here, same⟩, before⟩
    obtain ⟨bound, rfl⟩ := List.getElem?_eq_some_iff.mp here
    exact ⟨bound, same, fun j earlier =>
      Bool.eq_false_iff.mp (before j _ earlier (List.getElem?_eq_getElem (Nat.lt_trans earlier bound)))⟩

/-- A row with a value for each of its columns is looked up as it is mapped. Of columns with one name the last
gives its place, its value and the content of the member; a name that is that of no column stands for the
first column that it is up to case; and the object has a member for each name and no other. -/
theorem get?_agrees_with_toJson (names : List String) (values : List Value) (wide : names.length ≤ values.length) :
    let r := ofColumns names values
    (∀ column ∈ names, ∃ i value, IsLastAt names column i ∧ values[i]? = some value ∧
        r.ordinal? column = some i ∧ r.get? column = some value ∧
        r.toJson.member? column = some value.toJson) ∧
      (∀ column, column ∉ names →
        (∀ i, r.ordinal? column = some i ↔ IsFirstLike names column i) ∧
        (r.ordinal? column = none ↔ ∀ own ∈ names, Name.sameIgnoringCase own column = false)) ∧
      ∃ members, r.toJson = .object members ∧ Json.Sorted members ∧
        ∀ name, name ∈ members.map (·.1) ↔ name ∈ names := by
  intro r
  refine ⟨fun column mem => ?_, fun column absent => ?_, _, rfl, Json.sorted_sortMembers _, fun name => ?_⟩
  · obtain ⟨i, last⟩ := exists_isLastAt mem
    have place : r.ordinal? column = some i := ordinal?_of_isLastAt last
    have there : values[i]? = some _ := List.getElem?_eq_getElem (Nat.lt_of_lt_of_le last.lt_length wide)
    have counts : r.last? column = values[i]? := findRev?_zip last wide
    refine ⟨i, _, last, there, place, ?_, ?_⟩
    · rw [get?, place]
      exact there
    · exact (r.find?_toJson column).trans (by rw [counts, there, Option.map_some])
  · have place : r.ordinal? column = _ := ordinal?_of_not_mem absent
    rw [place]
    exact ⟨fun i => findIdx?_eq_some_iff, List.findIdx?_eq_none_iff⟩
  · have pairs : r.pairs.map (·.1) = names := List.map_fst_zip wide
    rw [← Entries.isSome_find?_iff, r.find?_toJson, Option.isSome_map, isSome_last?_iff, pairs]

/-- A column that is there three times, twice by the same name, in a row that is wider than its columns. -/
theorem get?_agrees_with_toJson_repeated :
    let names := ["id", "Id", "id"]
    let values : List Value := [.int 1, .int 2, .int 3, .null]
    let r := ofColumns names values
    names.length ≤ values.length ∧ r.get? "id" = some (.int 3) ∧
      r.toJson.member? "id" = some (Value.int 3).toJson ∧ r.ordinal? "ID" = some 0 := by
  intro names values r
  have wide : names.length ≤ values.length := by decide
  obtain ⟨exact, like, _⟩ := get?_agrees_with_toJson names values wide
  obtain ⟨i, value, _, there, place, got, member⟩ := exact "id" (by decide)
  have third : r.ordinal? "id" = some 2 := rfl
  cases third.symm.trans place
  cases there
  exact ⟨wide, got, member, ((like "ID" (by decide)).1 0).mpr
    ⟨⟨"id", rfl, by decide⟩, fun j own earlier => absurd earlier (Nat.not_lt_zero j)⟩⟩

end Row

end TypedSql
