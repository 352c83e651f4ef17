import Mathlib.Data.List.Induction
import TypedSql.Proofs.Traversal
import TypedSql.ResultSet

namespace TypedSql

/-- What is done with a result set: its columns are named, or values are added to it as a row. -/
inductive Filling where
  | columns (names : List String)
  | row (values : List Value)

namespace Filling

def names? : Filling → Option (List String)
  | .columns names => some names
  | .row _ => none

variable {fillings : List Filling} {filling : Filling}

/-- The columns in force behind some fillings: those that were named last. -/
def inForce? (fillings : List Filling) : Option (List String) := (fillings.filterMap names?).getLast?

/-- The row that a filling adds where some columns are in force. -/
def row? (names? : Option (List String)) : Filling → Option Row
  | .columns _ => none
  | .row values => names?.map fun names => Row.ofColumns names values

/-- The rows that are added by some fillings, each under the columns in force at its place. -/
def rows (fillings : List Filling) : List Row :=
  (List.range fillings.length).filterMap fun i => fillings[i]?.bind (row? (inForce? (fillings.take i)))

theorem inForce?_concat_columns (fillings : List Filling) (names : List String) :
    inForce? (fillings ++ [.columns names]) = some names := by
  rw [inForce?, List.filterMap_append]
  exact List.getLast?_concat

theorem inForce?_concat_row (fillings : List Filling) (values : List Value) :
    inForce? (fillings ++ [.row values]) = inForce? fillings := by
  rw [inForce?, List.filterMap_append]
  exact congrArg _ (List.append_nil _)

theorem rows_concat (fillings : List Filling) (filling : Filling) :
    rows (fillings ++ [filling]) = rows fillings ++ (filling.row? (inForce? fillings)).toList := by
  have here : (fillings ++ [filling])[fillings.length]? = some filling := by simp
  have before : (fillings ++ [filling]).take fillings.length = fillings := List.take_left
  have earlier : ∀ i ∈ List.range fillings.length,
      (fillings ++ [filling])[i]? = fillings[i]? ∧ (fillings ++ [filling]).take i = fillings.take i := by
    intro i mem
    have bound := List.mem_range.mp mem
    exact ⟨List.getElem?_append_left bound, List.take_append_of_le_length (Nat.le_of_lt bound)⟩
  unfold rows
  rw [List.length_append, List.length_singleton, List.range_succ, List.filterMap_append]
  congr 1
  · apply List.filterMap_congr
    intro i mem
    rw [(earlier i mem).1, (earlier i mem).2]
  · rw [List.filterMap_cons, here, before, Option.bind_some]
    cases filling.row? (inForce? fillings) <;> rfl

/-- A row that is added is the one that its own columns and values make. -/
theorem eq_ofColumns_of_mem_rows {row : Row} (mem : row ∈ rows fillings) :
    row = Row.ofColumns row.columns row.values := by
  obtain ⟨i, _, added⟩ := List.mem_filterMap.mp mem
  obtain ⟨filling, _, made⟩ := Option.bind_eq_some_iff.mp added
  cases filling with
  | columns names => cases made
  | row values =>
    obtain ⟨names, _, rfl⟩ := Option.map_eq_some_iff.mp made
    rfl

end Filling

namespace ResultSet

open Filling

variable {α : Type} {s : ResultSet} {fillings : List Filling}

def fill (s : ResultSet) : Filling → ResultSet
  | .columns names => s.setColumns names
  | .row values => s.addRow values

def ofFillings (fillings : List Filling) : ResultSet := fillings.foldl fill .empty

/-- A result set holds what some fillings come to, and its header is that of the columns in force. -/
structure Holds (s : ResultSet) (fillings : List Filling) : Prop where
  header?_eq : s.header? = (inForce? fillings).map Header.ofNames
  rows_eq : s.rows = Filling.rows fillings
  rowsAffected_eq : s.rowsAffected = s.rows.length

theorem Holds.fill (h : s.Holds fillings) (filling : Filling) : (s.fill filling).Holds (fillings ++ [filling]) := by
  have rows := rows_concat fillings filling
  cases filling with
  | columns names =>
    refine ⟨?_, ?_, h.rowsAffected_eq⟩
    · rw [inForce?_concat_columns]
      rfl
    · rw [rows]
      exact h.rows_eq.trans (List.append_nil _).symm
  | row values =>
    have header := h.header?_eq
    cases named : inForce? fillings with
    | none =>
      rw [named] at header rows
      have dropped : s.fill (.row values) = s := by rw [ResultSet.fill, addRow, header, Option.map_none]
      rw [dropped]
      refine ⟨?_, ?_, h.rowsAffected_eq⟩
      · rw [inForce?_concat_row, header, named]
      · rw [rows]
        exact h.rows_eq.trans (List.append_nil _).symm
    | some names =>
      rw [named] at header rows
      have added : s.fill (.row values) =
          { s with rows := s.rows ++ [Row.ofColumns names values], rowsAffected := s.rowsAffected + 1 } := by
        rw [ResultSet.fill, addRow, header, Option.map_some]
        rfl
      rw [added]
      refine ⟨?_, ?_, ?_⟩
      · rw [inForce?_concat_row, named]
        exact header
      · rw [rows, ← h.rows_eq]
        rfl
      · simp only [List.length_append, List.length_singleton, h.rowsAffected_eq]

theorem holds_ofFillings (fillings : List Filling) : (ofFillings fillings).Holds fillings := by
  induction fillings using List.reverseRecOn with
  | nil => exact ⟨rfl, rfl, rfl⟩
  | append_singleton fillings filling ih =>
    have step : ofFillings (fillings ++ [filling]) = (ofFillings fillings).fill filling := List.foldl_concat ..
    rw [step]
    exact ih.fill filling

theorem deserialize_eq_ok_iff {decode : Json → Except Mapping.Flaw α} {values : List α} :
    s.deserialize decode = .ok values ↔
      List.Forall₂ (fun row value => row.deserialize decode = .ok value) s.rows values := mapM_eq_ok_iff

theorem deserialize_eq_error_iff {decode : Json → Except Mapping.Flaw α} {failure : Failure} :
    s.deserialize decode = .error failure ↔ ∃ before row after, s.rows = before ++ row :: after ∧
      (∀ fitting ∈ before, ∃ value, fitting.deserialize decode = .ok value) ∧
      row.deserialize decode = .error failure := mapM_eq_error_iff

/-- However columns are named and rows are added in between, the rows of a set are those that were added under
some columns, in their order, each the row that its values make alone under the columns of its time; they are
counted; and they are mapped to the end or up to the first that does not fit. -/
theorem ofFillings_rows (fillings : List Filling) :
    let s := ofFillings fillings
    s.rows = Filling.rows fillings ∧ (∀ row ∈ s.rows, row = Row.ofColumns row.columns row.values) ∧
      s.rowsAffected = s.rows.length ∧ s.columns? = inForce? fillings ∧
      ∀ {α : Type} (decode : Json → Except Mapping.Flaw α),
        (∀ values, s.deserialize decode = .ok values ↔
          List.Forall₂ (fun row value => row.deserialize decode = .ok value) s.rows values) ∧
        ∀ failure, s.deserialize decode = .error failure ↔ ∃ before row after, s.rows = before ++ row :: after ∧
          (∀ fitting ∈ before, ∃ value, fitting.deserialize decode = .ok value) ∧
          row.deserialize decode = .error failure := by
  intro s
  have holds := holds_ofFillings fillings
  have own : ∀ row ∈ s.rows, row = Row.ofColumns row.columns row.values := by
    rw [holds.rows_eq]
    exact fun row mem => eq_ofColumns_of_mem_rows mem
  refine ⟨holds.rows_eq, own, holds.rowsAffected_eq, ?_, fun decode =>
    ⟨fun _ => deserialize_eq_ok_iff, fun _ => deserialize_eq_error_iff⟩⟩
  rw [columns?, holds.header?_eq, Option.map_map]
  exact Option.map_id'

end ResultSet

end TypedSql
