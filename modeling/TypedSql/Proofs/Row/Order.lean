import TypedSql.Proofs.ResultSet
import TypedSql.Proofs.Row.Lookup

namespace TypedSql

variable {α : Type} {r r' : Row} {s s' : ResultSet}

namespace Row

/-- The same columns in some order, each with its value. -/
structure Reordered (r r' : Row) : Prop where
  whole : r.columns.length = r.values.length
  whole' : r'.columns.length = r'.values.length
  perm : r.pairs.Perm r'.pairs

/-- Two rows that no mapping tells apart: they come to one object, and to one value or one failure of any target. -/
structure MapsAlike (r r' : Row) : Prop where
  toJson_eq : r'.toJson = r.toJson
  deserialize_eq : ∀ {α : Type} (decode : Json → Except Mapping.Flaw α), r'.deserialize decode = r.deserialize decode

theorem MapsAlike.of_toJson_eq (same : r'.toJson = r.toJson) : r.MapsAlike r' :=
  ⟨same, fun decode => by rw [deserialize, deserialize, same]⟩

/-- The object of a row depends on nothing but what its columns come to that are the last of their name. -/
theorem toJson_eq_iff (r r' : Row) :
    r'.toJson = r.toJson ↔ ∀ name, (r'.last? name).map Value.toJson = (r.last? name).map Value.toJson := by
  constructor
  · intro same name
    rw [← find?_toJson, ← find?_toJson, Json.object.inj same]
  · intro found
    refine congrArg Json.object ((Json.sorted_sortMembers _).ext (Json.sorted_sortMembers _) fun name => ?_)
    rw [find?_toJson, find?_toJson, found]

theorem mapsAlike_of_last? (last : ∀ name, r'.last? name = r.last? name) : r.MapsAlike r' :=
  .of_toJson_eq ((toJson_eq_iff r r').mpr fun name => congrArg _ (last name))

theorem names_pairs (whole : r.columns.length = r.values.length) : r.pairs.map (·.1) = r.columns :=
  List.map_fst_zip (Nat.le_of_eq whole)

theorem Reordered.last?_eq (reordered : r.Reordered r') (distinct : r.columns.Nodup) (name : String) :
    r'.last? name = r.last? name := by
  rw [← names_pairs reordered.whole] at distinct
  have distinct' : (r'.pairs.map (·.1)).Nodup := (reordered.perm.map _).nodup distinct
  rw [last?, last?, Entries.findRev?_of_distinct distinct, Entries.findRev?_of_distinct distinct',
    Entries.find?_of_perm reordered.perm distinct]

end Row

theorem ResultSet.deserialize_eq_of_mapsAlike (alike : List.Forall₂ Row.MapsAlike s.rows s'.rows)
    (decode : Json → Except Mapping.Flaw α) : s'.deserialize decode = s.deserialize decode :=
  mapM_congr_of_forall₂ (alike.imp fun _ _ same => same.deserialize_eq decode)

namespace Row

/-- A row of distinct columns is mapped alike in every order of its columns. Where names are repeated, it is mapped
like every row in which the last columns of each name hold the same, and its object is that of no row in which they
come to anything else; and sets of rows that are mapped alike one by one are mapped alike. -/
theorem mapping_ignores_order (r : Row) :
    (∀ r' : Row, r.Reordered r' → r.columns.Nodup → r.MapsAlike r') ∧
      (∀ r' : Row, (∀ name, r'.last? name = r.last? name) → r.MapsAlike r') ∧
      (∀ r' : Row, r'.toJson = r.toJson ↔
        ∀ name, (r'.last? name).map Value.toJson = (r.last? name).map Value.toJson) ∧
      ∀ (s s' : ResultSet), List.Forall₂ MapsAlike s.rows s'.rows → ∀ {α : Type}
        (decode : Json → Except Mapping.Flaw α), s'.deserialize decode = s.deserialize decode := by
  refine ⟨fun r' reordered distinct => ?_, fun r' last => mapsAlike_of_last? last, fun r' => toJson_eq_iff r r', ?_⟩
  · exact mapsAlike_of_last? (reordered.last?_eq distinct)
  · exact fun _ _ alike => ResultSet.deserialize_eq_of_mapsAlike alike

/-- Two columns that both do not fit, in either order: it is the same one that is reported. -/
theorem mapping_ignores_order_misfits :
    let r := ofColumns ["name", "id"] [.int 5, .text "x"]
    let r' := ofColumns ["id", "name"] [.text "x", .int 5]
    let user : Mapping.Record := { fields := [⟨"id", .integer .signed64, .required⟩, ⟨"name", .text, .required⟩] }
    r.Reordered r' ∧ r.columns.Nodup ∧ r'.toJson = r.toJson ∧
      r'.deserialize user.decode = r.deserialize user.decode := by
  intro r r' user
  have reordered : r.Reordered r' := ⟨rfl, rfl, .swap ..⟩
  have distinct : r.columns.Nodup := by decide
  have alike := (mapping_ignores_order r).1 r' reordered distinct
  exact ⟨reordered, distinct, alike.toJson_eq, alike.deserialize_eq user.decode⟩

end Row

end TypedSql
