import Mathlib.Data.List.Forall2
import TypedSql.Payload
import TypedSql.Proofs.Json.Members

namespace TypedSql

theorem PayloadName.eq_of_toText {name : PayloadName} {failure : Failure} (failed : name.toText = .error failure) :
    failure = .mapping "key must be a string" := by
  cases name <;> cases failed
  rfl

namespace Payload

mutual

/-- What keeps data from being a document: a name that is no text, or an integer past 64 bits. -/
theorem eq_of_toJson (payload : Payload) {failure : Failure} (failed : payload.toJson = .error failure) :
    failure = .mapping "key must be a string" ∨ failure = .mapping "number out of range" := by
  cases payload with
  | int n =>
    rw [toJson] at failed
    split at failed <;> cases failed
    exact .inr rfl
  | labelled name content =>
    rw [toJson] at failed
    cases inner : content.toJson with
    | error flaw =>
      rw [inner] at failed
      cases failed
      exact eq_of_toJson content inner
    | ok document => rw [inner] at failed; cases failed
  | map members =>
    rw [toJson] at failed
    cases inner : toMembers [] members with
    | error flaw =>
      rw [inner] at failed
      cases failed
      exact eq_of_toMembers members inner
    | ok sorted => rw [inner] at failed; cases failed
  | _ => cases failed

theorem eq_of_toMembers (members : List (PayloadName × Payload)) {sorted : List (String × Json)} {failure : Failure}
    (failed : toMembers sorted members = .error failure) :
    failure = .mapping "key must be a string" ∨ failure = .mapping "number out of range" := by
  cases members with
  | nil => cases failed
  | cons member rest =>
    obtain ⟨name, content⟩ := member
    rw [toMembers] at failed
    cases named : name.toText with
    | error flaw =>
      simp only [named] at failed
      cases failed
      exact .inl (PayloadName.eq_of_toText named)
    | ok text =>
      cases inner : content.toJson with
      | error flaw =>
        simp only [named, inner] at failed
        cases failed
        exact eq_of_toJson content inner
      | ok document =>
        simp only [named, inner] at failed
        exact eq_of_toMembers rest failed

end

/-- A name and some data, and the field they come to. -/
def Presents (member : PayloadName × Payload) (field : String × Json) : Prop :=
  member.1.toText = .ok field.1 ∧ member.2.toJson = .ok field.2

/-- The fields of an object as some data gives them: in any order, and a name more than once. -/
inductive Gives : Payload → List (String × Json) → Prop where
  | document (fields : List (String × Json)) : Gives (.json (Json.ofMembers fields)) fields
  | labelled {name : String} {content : Payload} {document : Json} (inner : content.toJson = .ok document) :
    Gives (.labelled name content) [(name, document)]
  | map {members : List (PayloadName × Payload)} {fields : List (String × Json)}
      (inner : List.Forall₂ Presents members fields) : Gives (.map members) fields

theorem toJson_of_gives {payload : Payload} {fields : List (String × Json)} (gives : payload.Gives fields) :
    payload.toJson = .ok (Json.ofMembers fields) := by
  cases gives with
  | document => rfl
  | labelled inner =>
    rw [toJson, inner]
    rfl
  | @map members fields inner =>
    have collected : ∀ sorted, toMembers sorted members =
        .ok (fields.foldl (fun sorted field => Json.insertMember field.1 field.2 sorted) sorted) := by
      induction inner with
      | nil => exact fun _ => rfl
      | cons first _ ih =>
        intro sorted
        rw [toMembers, first.1, first.2]
        exact ih _
    rw [toJson, collected]
    rfl

theorem exists_presented {members : List (PayloadName × Payload)} {sorted made : List (String × Json)}
    (collected : toMembers sorted members = .ok made) : ∃ fields, List.Forall₂ Presents members fields := by
  induction members generalizing sorted with
  | nil => exact ⟨[], .nil⟩
  | cons member rest ih =>
    obtain ⟨name, content⟩ := member
    rw [toMembers] at collected
    cases named : name.toText with
    | error failure => simp only [named] at collected; cases collected
    | ok text =>
      cases inner : content.toJson with
      | error failure => simp only [named, inner] at collected; cases collected
      | ok document =>
        simp only [named, inner] at collected
        obtain ⟨fields, given⟩ := ih collected
        exact ⟨(text, document) :: fields, .cons ⟨named, inner⟩ given⟩

/-- Data gives fields wherever it is an object. -/
theorem exists_gives {payload : Payload} {members : List (String × Json)}
    (object : payload.toJson = .ok (.object members)) (sorted : Json.Sorted members) :
    ∃ fields, payload.Gives fields := by
  cases payload with
  | json document =>
    cases object
    have whole : Json.ofMembers members = .object members := congrArg Json.object sorted.sortMembers_eq
    exact ⟨members, whole ▸ .document members⟩
  | labelled name content =>
    cases inner : content.toJson with
    | error failure => simp [toJson, inner, Except.map] at object
    | ok document => exact ⟨_, .labelled inner⟩
  | map given =>
    cases collected : toMembers [] given with
    | error failure => simp [toJson, collected, Except.map] at object
    | ok made =>
      obtain ⟨fields, inner⟩ := exists_presented collected
      exact ⟨fields, .map inner⟩
  | float x =>
    rw [toJson, Json.ofBinary64] at object
    split at object <;> cases object
  | int n =>
    rw [toJson] at object
    split at object <;> cases object
  | _ => cases object

end Payload

end TypedSql
