import TypedSql.Command
import TypedSql.Proofs.Binding

namespace TypedSql

namespace Entries

variable {β : Type} {name other : String}

theorem find?_erase_self (name : String) (entries : List (String × β)) :
    find? name (erase name entries) = none := by
  simp [find?, erase]

theorem find?_erase_of_ne (h : other ≠ name) (entries : List (String × β)) :
    find? other (erase name entries) = find? other entries := by
  unfold find? erase
  rw [List.find?_filter]
  congr 2
  funext entry
  by_cases same : entry.1 = other
  · simp [same, h]
  · simp [same]

end Entries

variable {outputs : List OutputParameter} {output : OutputParameter} {reported : List (String × Value)}
  {entry : String × Value} {value : Value}

theorem readOutputs_cons_of_reported (found : Entries.find? output.variableName reported = some value)
    (rest : List OutputParameter) :
    readOutputs (output :: rest) reported =
      (output.name, value) :: readOutputs rest (Entries.erase output.variableName reported) := by
  simp only [readOutputs, found]

theorem readOutputs_cons_of_unreported (missing : Entries.find? output.variableName reported = none)
    (rest : List OutputParameter) : readOutputs (output :: rest) reported = readOutputs rest reported := by
  simp only [readOutputs, missing]

/-- Each declared output finds the value that is reported under its variable, if no two are of one name. -/
theorem readOutputs_eq_zip {values : List Value} (distinct : (outputs.map (·.variableName)).Nodup)
    (found : ∀ pair ∈ outputs.zip values, Entries.find? pair.1.variableName reported = some pair.2)
    (length : values.length = outputs.length) :
    readOutputs outputs reported = (outputs.map (·.name)).zip values := by
  induction outputs generalizing values reported with
  | nil => rfl
  | cons output rest ih =>
    cases values with
    | nil => simp at length
    | cons value values =>
      rw [List.map_cons, List.nodup_cons] at distinct
      have own := found (output, value) List.mem_cons_self
      rw [readOutputs_cons_of_reported own, List.map_cons, List.zip_cons_cons]
      congr 1
      apply ih distinct.2
      · intro pair mem
        have different : pair.1.variableName ≠ output.variableName := by
          intro same
          exact distinct.1 (same ▸ List.mem_map_of_mem (List.of_mem_zip mem).1)
        rw [Entries.find?_erase_of_ne different]
        exact found pair (List.mem_cons_of_mem _ mem)
      · simpa using length

/-- What is read was declared, and its value was reported under its variable. -/
theorem exists_of_mem_readOutputs (mem : entry ∈ readOutputs outputs reported) :
    ∃ output ∈ outputs, output.name = entry.1 ∧ Entries.find? output.variableName reported = some entry.2 := by
  induction outputs generalizing reported with
  | nil => simp [readOutputs] at mem
  | cons first rest ih =>
    cases found : Entries.find? first.variableName reported with
    | none =>
      rw [readOutputs_cons_of_unreported found] at mem
      obtain ⟨output, there, named⟩ := ih mem
      exact ⟨output, List.mem_cons_of_mem _ there, named⟩
    | some value =>
      rw [readOutputs_cons_of_reported found] at mem
      rcases List.mem_cons.mp mem with rfl | mem
      · exact ⟨first, List.mem_cons_self, rfl, found⟩
      · obtain ⟨output, there, name, held⟩ := ih mem
        have other : output.variableName ≠ first.variableName := by
          intro same
          rw [same, Entries.find?_erase_self] at held
          cases held
        rw [Entries.find?_erase_of_ne other] at held
        exact ⟨output, List.mem_cons_of_mem _ there, name, held⟩

theorem find?_of_mem_readOutputs (mem : entry ∈ readOutputs outputs reported) :
    (Entries.find? (Name.marked entry.1) reported).isSome = true := by
  obtain ⟨output, _, name, held⟩ := exists_of_mem_readOutputs mem
  rw [← name]
  exact Option.isSome_iff_exists.mpr ⟨entry.2, held⟩

/-- No output is read twice, however often it was declared. -/
theorem nodup_readOutputs (outputs : List OutputParameter) (reported : List (String × Value)) :
    ((readOutputs outputs reported).map (·.1)).Nodup := by
  induction outputs generalizing reported with
  | nil => exact .nil
  | cons first rest ih =>
    cases found : Entries.find? first.variableName reported with
    | none =>
      rw [readOutputs_cons_of_unreported found]
      exact ih reported
    | some value =>
      rw [readOutputs_cons_of_reported found, List.map_cons, List.nodup_cons]
      refine ⟨fun again => ?_, ih _⟩
      obtain ⟨entry, mem, name⟩ := List.mem_map.mp again
      have held := find?_of_mem_readOutputs mem
      rw [name, show Name.marked first.name = first.variableName from rfl, Entries.find?_erase_self] at held
      cases held

/-- A name is read if the first declared output with its variable is stored under just this name. -/
theorem find?_readOutputs (name : String) (outputs : List OutputParameter) (reported : List (String × Value)) :
    Entries.find? name (readOutputs outputs reported) =
      (outputs.find? (·.variableName = Name.marked name)).bind fun first =>
        if first.name = name then Entries.find? (Name.marked name) reported else none := by
  induction outputs generalizing reported with
  | nil => rfl
  | cons first rest ih =>
    by_cases own : first.variableName = Name.marked name
    · rw [List.find?_cons_of_pos (by simpa using own), Option.bind_some]
      cases found : Entries.find? first.variableName reported with
      | none =>
        rw [readOutputs_cons_of_unreported found, ih, ← own, found]
        simp
      | some value =>
        -- The value is taken, so that none is left for those that come behind.
        rw [readOutputs_cons_of_reported found]
        by_cases named : first.name = name
        · rw [if_pos named, ← own, found]
          simp [Entries.find?, named]
        · have skipped : Entries.find? name ((first.name, value) ::
              readOutputs rest (Entries.erase first.variableName reported)) =
                Entries.find? name (readOutputs rest (Entries.erase first.variableName reported)) := by
            simp [Entries.find?, named]
          rw [skipped, ih, if_neg named, own, Entries.find?_erase_self]
          simp
    · have other : first.name ≠ name := by
        intro same
        exact own (same ▸ rfl)
      rw [List.find?_cons_of_neg (by simpa using own)]
      cases found : Entries.find? first.variableName reported with
      | none => rw [readOutputs_cons_of_unreported found, ih]
      | some value =>
        have skipped : Entries.find? name ((first.name, value) ::
            readOutputs rest (Entries.erase first.variableName reported)) =
              Entries.find? name (readOutputs rest (Entries.erase first.variableName reported)) := by
          simp [Entries.find?, other]
        rw [readOutputs_cons_of_reported found, skipped, ih, Entries.find?_erase_of_ne (Ne.symm own)]

theorem readOutputs_append_of_unreported {again : OutputParameter}
    (missing : Entries.find? again.variableName reported = none) (front back : List OutputParameter) :
    readOutputs (front ++ again :: back) reported = readOutputs (front ++ back) reported := by
  induction front generalizing reported with
  | nil => exact readOutputs_cons_of_unreported missing back
  | cons first rest ih =>
    rw [List.cons_append, List.cons_append]
    cases found : Entries.find? first.variableName reported with
    | none =>
      rw [readOutputs_cons_of_unreported found, readOutputs_cons_of_unreported found]
      exact ih missing
    | some value =>
      have other : again.variableName ≠ first.variableName := by
        intro same
        rw [same, found] at missing
        cases missing
      rw [readOutputs_cons_of_reported found, readOutputs_cons_of_reported found, ih]
      rwa [Entries.find?_erase_of_ne other]

/-- An output whose variable was declared before is passed over. -/
theorem readOutputs_append_cons {front : List OutputParameter} {again : OutputParameter}
    (before : ∃ output ∈ front, output.variableName = again.variableName) (back : List OutputParameter)
    (reported : List (String × Value)) :
    readOutputs (front ++ again :: back) reported = readOutputs (front ++ back) reported := by
  induction front generalizing reported with
  | nil => simp at before
  | cons first rest ih =>
    rw [List.cons_append, List.cons_append]
    by_cases same : first.variableName = again.variableName
    · cases found : Entries.find? first.variableName reported with
      | none =>
        rw [readOutputs_cons_of_unreported found, readOutputs_cons_of_unreported found]
        exact readOutputs_append_of_unreported (same ▸ found) rest back
      | some value =>
        have gone : Entries.find? again.variableName (Entries.erase first.variableName reported) = none := by
          rw [same]
          exact Entries.find?_erase_self _ _
        rw [readOutputs_cons_of_reported found, readOutputs_cons_of_reported found,
          readOutputs_append_of_unreported gone]
    · have later : ∃ output ∈ rest, output.variableName = again.variableName := by
        obtain ⟨output, mem, named⟩ := before
        rcases List.mem_cons.mp mem with rfl | mem
        · exact absurd named same
        · exact ⟨output, mem, named⟩
      cases found : Entries.find? first.variableName reported with
      | none =>
        rw [readOutputs_cons_of_unreported found, readOutputs_cons_of_unreported found, ih later]
      | some value =>
        rw [readOutputs_cons_of_reported found, readOutputs_cons_of_reported found, ih later]

end TypedSql
