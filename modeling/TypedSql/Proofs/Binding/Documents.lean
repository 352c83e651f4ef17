import TypedSql.Payload
import TypedSql.Proofs.Binding

namespace TypedSql

/-- What a value holds as the document has it: a finite double, an integer that fits 64 bits with its
sign, and all that is no number. -/
def Json.Exact : Json → Prop
  | .integer n => n.val < 9223372036854775808
  | .double x => x.isFinite = true
  | _ => True

namespace Value

theorem ofJson_of_lt {n : JsonInteger} (small : n.val < 9223372036854775808) :
    ofJson (.integer n) = .int (Int64.ofInt n.val) := by
  simp only [ofJson, if_pos small]

theorem ofJson_of_ge {n : JsonInteger} (large : 9223372036854775808 ≤ n.val) :
    ofJson (.integer n) = .float (Binary64.ofInt n.val) := by
  simp only [ofJson, if_neg (show ¬n.val < 9223372036854775808 by omega)]

theorem toInt_ofInt {n : JsonInteger} (small : n.val < 9223372036854775808) :
    (Int64.ofInt n.val).toInt = n.val := by
  have low := n.inRange.1
  exact Int64.toInt_ofInt_of_le (by omega) (by omega)

theorem toJson_ofJson_of_exact {document : Json} (exact : document.Exact) :
    (ofJson document).toJson = document := by
  cases document with
  | integer n =>
    have back : JsonInteger.ofInt64 (Int64.ofInt n.val) = n := by
      have kept := toInt_ofInt exact
      cases n
      simpa only [JsonInteger.ofInt64, JsonInteger.mk.injEq] using kept
    rw [ofJson_of_lt exact, toJson, back]
  | double x =>
    have finite : x.isFinite = true := exact
    simp only [ofJson, toJson, Json.ofBinary64, if_pos finite]
  | _ => rfl

/-- What is not held exactly comes back as something else, also where doubles are compared as numbers. -/
theorem toJson_ofJson_of_not_exact {document : Json} (inexact : ¬document.Exact) :
    (ofJson document).toJson ≠ document ∧ ((ofJson document).toJson == document) = false := by
  cases document with
  | integer n =>
    have large : 9223372036854775808 ≤ n.val := by
      simp only [Json.Exact] at inexact
      omega
    rw [ofJson_of_ge large, toJson, Json.ofBinary64]
    split <;> exact ⟨Json.noConfusion, rfl⟩
  | double x =>
    have infinite : ¬x.isFinite = true := inexact
    simp only [ofJson, toJson, Json.ofBinary64, if_neg infinite]
    exact ⟨Json.noConfusion, rfl⟩
  | _ => exact absurd trivial inexact

theorem exists_int_iff {n : JsonInteger} :
    (∃ m, ofJson (.integer n) = .int m ∧ m.toInt = n.val) ↔ n.val < 9223372036854775808 := by
  constructor
  · rintro ⟨m, held, _⟩
    refine Int.not_le.mp fun large => ?_
    rw [ofJson_of_ge large] at held
    cases held
  · exact fun small => ⟨_, ofJson_of_lt small, toInt_ofInt small⟩

end Value

namespace Parameters

variable {payload : Payload} {members : List (String × Json)}

/-- A document comes back from the value that is made of it exactly if it is no integer past 64 bits with a
sign (and no double without a number, which no document has). So the fields of an object that is bound, each
name once and the last of equal names, are held exactly as they are, and integers as integers, with just
this exception. -/
theorem ofPayload_exact_iff (object : payload.toJson = .ok (.object members)) :
    (∀ document : Json, ((Value.ofJson document).toJson = document ↔ document.Exact) ∧
      (¬document.Exact → ((Value.ofJson document).toJson == document) = false)) ∧
    ∃ p, payload.toJson.bind ofJson = .ok p ∧
      p.names = (members.map fun member => Name.marked member.1).eraseDups ∧
      ∀ name field document,
        members.findRev? (fun member => Name.marked member.1 = Name.marked name) = some (field, document) →
        ∃ value, p.get? name = some value ∧ (value.toJson = document ↔ document.Exact) ∧
          ∀ n, document = .integer n → ((∃ m, value = .int m ∧ m.toInt = n.val) ↔ document.Exact) := by
  have back : ∀ document : Json, (Value.ofJson document).toJson = document ↔ document.Exact := by
    intro document
    refine ⟨fun same => ?_, Value.toJson_ofJson_of_exact⟩
    exact Classical.byContradiction fun inexact => (Value.toJson_ofJson_of_not_exact inexact).1 same
  refine ⟨fun document => ⟨back document, fun inexact => (Value.toJson_ofJson_of_not_exact inexact).2⟩, ?_⟩
  refine ⟨_, by rw [object]; rfl, ?_, ?_⟩
  · rw [names_ofList, List.map_map]
    rfl
  · intro name field document last
    refine ⟨Value.ofJson document, ?_, back document, ?_⟩
    · rw [get?_ofList, lastBound?_map, last]
      rfl
    · rintro n rfl
      exact Value.exists_int_iff

/-- A field of 64 bits without a sign, past what a double can tell apart, and one whose name is given twice. -/
theorem ofPayload_exact_iff_identifiers :
    let payload : Payload := .map [(.text "@id", .int 9007199254740993), (.text "id", .int (-9223372036854775808)),
      (.text "total", .int 9223372036854775807)]
    let smallest : Json := .integer ⟨-9223372036854775808, by decide⟩
    let largest : Json := .integer ⟨9223372036854775807, by decide⟩
    let members := [("@id", .integer ⟨9007199254740993, by decide⟩), ("id", smallest), ("total", largest)]
    payload.toJson = .ok (.object members) ∧
      ∃ p id total, payload.toJson.bind ofJson = .ok p ∧ p.names = ["@id", "@total"] ∧
        p.get? "@id" = some id ∧ id.toJson = smallest ∧ p.get? "@total" = some total ∧ total.toJson = largest := by
  intro payload smallest largest members
  have object : payload.toJson = .ok (.object members) := by rfl
  have bare : Name.marked "id" = "@id" := by decide +kernel
  have marked : Name.marked "@id" = "@id" := by decide +kernel
  have other : Name.marked "total" = "@total" := by decide +kernel
  have marked' : Name.marked "@total" = "@total" := by decide +kernel
  obtain ⟨_, p, bound, names, fields⟩ := ofPayload_exact_iff object
  obtain ⟨id, heldId, backId, _⟩ := fields "@id" "id" smallest
    (by simp [members, List.findRev?, bare, marked, other])
  obtain ⟨total, heldTotal, backTotal, _⟩ := fields "@total" "total" largest
    (by simp [members, List.findRev?, other, marked'])
  have named : p.names = ["@id", "@total"] := by
    rw [names]
    decide +kernel
  have exactId : smallest.Exact := show (-9223372036854775808 : Int) < 9223372036854775808 by decide
  have exactTotal : largest.Exact := show (9223372036854775807 : Int) < 9223372036854775808 by decide
  exact ⟨object, p, id, total, bound, named, heldId, backId.mpr exactId, heldTotal, backTotal.mpr exactTotal⟩

/-- The largest integer of 64 bits without a sign is bound as the double above it. -/
theorem ofPayload_rounds_unsigned :
    let largest : Json := .integer (.ofNat64 18446744073709551615)
    let double : Binary64 := ⟨0x43f0000000000000⟩
    (Value.ofJson largest).toJson = .double double ∧ (Value.ofJson largest).toJson ≠ largest ∧
      ∃ p, (Payload.map [(.text "id", .int 18446744073709551615)]).toJson = .ok (.object [("id", largest)]) ∧
        ofJson (.object [("id", largest)]) = .ok p ∧ p.entries = [("@id", .float double)] := by
  intro largest double
  have rounded : Binary64.ofInt 18446744073709551615 = double := by decide +kernel
  have held : Value.ofJson largest = .float double := congrArg Value.float rounded
  have finite : double.isFinite = true := by decide +kernel
  have back : (Value.ofJson largest).toJson = .double double := by
    rw [held, Value.toJson, Json.ofBinary64, if_pos finite]
  have marked : Name.marked "id" = "@id" := by decide +kernel
  refine ⟨back, ?_, _, rfl, rfl, ?_⟩
  · rw [back]
    exact Json.noConfusion
  · rw [entries_ofList, List.map_singleton, List.map_singleton, held, marked]
    rfl

end Parameters

end TypedSql
