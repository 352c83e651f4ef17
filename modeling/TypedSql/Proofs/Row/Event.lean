import TypedSql.Proofs.Row.Lookup
import TypedSql.Proofs.Timestamp
import TypedSql.Proofs.Traversal

namespace TypedSql

namespace Mapping

variable {members : List (String × Json)} {r : Record}

theorem decode_ofByte (byte : UInt8) : IntegerRange.unsigned8.decode (.integer (.ofByte byte)) = .ok byte.toNat := by
  have low : (0 : Int) ≤ byte.toNat := Int.natCast_nonneg _
  have high : (byte.toNat : Int) ≤ 255 := by have := byte.toNat_lt; omega
  simp only [IntegerRange.decode, IntegerRange.unsigned8, JsonInteger.ofByte, low, high, decide_true, Bool.and_self,
    if_true]

theorem decode_bytes (bytes : List UInt8) :
    Shape.bytes.decode (.array (bytes.map fun byte => .integer (.ofByte byte))) = .ok (.bytes bytes) := by
  have items : (bytes.map fun byte => Json.integer (.ofByte byte)).mapM IntegerRange.unsigned8.decode =
      .ok (bytes.map fun byte => (byte.toNat : Int)) := by
    rw [List.mapM_map]
    exact mapM_eq_ok fun byte _ => decode_ofByte byte
  have back : ∀ byte : UInt8, UInt8.ofNat (byte.toNat : Int).toNat = byte := by
    intro byte
    rw [Int.toNat_natCast, UInt8.ofNat_toNat]
  simp only [Shape.decode, items, Except.map, List.map_map, Function.comp_def, back, List.map_id']

/-- A record whose fields fit is visited to the end, and what it finds under a field's name is the content of
the member of that name; members that belong to no field are passed over. -/
theorem Record.visit_of_fits (opened : r.closed = false)
    (fits : ∀ member ∈ members, ∀ field, r.fields.find? (·.name = member.1) = some field →
      ∃ content, field.decode member.2 = .ok content) :
    ∃ visited, r.visit members = .ok visited ∧ ∀ name field, r.fields.find? (·.name = name) = some field →
      (Entries.find? name visited).map .ok = (Entries.find? name members).map field.decode := by
  induction members with
  | nil => exact ⟨[], rfl, fun _ _ _ => rfl⟩
  | cons member rest ih =>
    obtain ⟨others, visited, same⟩ := ih fun other mem => fits other (List.mem_cons_of_mem _ mem)
    obtain ⟨own, found⟩ := member
    cases belongs : r.fields.find? (·.name = own) with
    | none =>
      refine ⟨others, ?_, fun name field named => ?_⟩
      · simp only [visit, belongs, opened, Bool.false_eq_true, if_false, visited]
      · have other : own ≠ name := fun here => by
          rw [here, named] at belongs
          cases belongs
        rw [same name field named]
        simp [Entries.find?, other]
    | some field =>
      obtain ⟨content, fit⟩ := fits (own, found) List.mem_cons_self field belongs
      refine ⟨(own, content) :: others, ?_, fun name field' named => ?_⟩
      · simp only [visit, belongs, fit, visited, bind, Except.bind]
        rfl
      · by_cases here : own = name
        · rw [← here, belongs] at named
          cases named
          simp [Entries.find?, here, fit]
        · have := same name field' named
          simpa [Entries.find?, here] using this

/-- A record of distinct fields, each with a member that fits, is made of what these members hold. -/
theorem Record.decode_of_fits (opened : r.closed = false)
    (own : ∀ field ∈ r.fields, r.fields.find? (·.name = field.name) = some field)
    (distinct : (members.map (·.1)).Nodup) (holds : Field → Content)
    (fits : ∀ field ∈ r.fields, ∃ found,
      Entries.find? field.name members = some found ∧ field.decode found = .ok (holds field)) :
    r.decode (.object members) = .ok (r.fields.map fun field => (field.name, holds field)) := by
  have fitting : ∀ member ∈ members, ∀ field, r.fields.find? (·.name = member.1) = some field →
      ∃ content, field.decode member.2 = .ok content := by
    intro member mem field named
    have here : field.name = member.1 := by simpa using List.find?_some named
    obtain ⟨found, held, fit⟩ := fits field (List.mem_of_find?_eq_some named)
    rw [here, Entries.find?_of_mem distinct mem] at held
    exact ⟨holds field, Option.some.inj held ▸ fit⟩
  obtain ⟨visited, read, same⟩ := r.visit_of_fits opened fitting
  simp only [decode, read, bind, Except.bind]
  refine mapM_eq_ok fun field mem => ?_
  obtain ⟨found, held, fit⟩ := fits field mem
  have kept := same field.name field (own field mem)
  rw [held, Option.map_some, fit] at kept
  obtain ⟨content, here, equal⟩ := Option.map_eq_some_iff.mp kept
  obtain ⟨entry, there, rfl⟩ := Option.map_eq_some_iff.mp here
  rw [there, ← Except.ok.inj equal]

/-- A moment, and the bytes that may come with it. -/
def event : Record where
  fields := [⟨"at", .timestamp, .required⟩, ⟨"data", .bytes, .optional⟩]

theorem decode_event {t : Timestamp} {bytes : List UInt8} (distinct : (members.map (·.1)).Nodup)
    (moment : Entries.find? "at" members = some (Value.timestamp t).toJson)
    (data : Entries.find? "data" members = some (Value.blob bytes).toJson) :
    event.decode (.object members) = .ok [("at", .timestamp t.asWritten), ("data", .bytes bytes)] := by
  have first : Field.decode ⟨"at", .timestamp, .required⟩ (Value.timestamp t).toJson = .ok (.timestamp t.asWritten) := by
    simp only [Field.decode, Value.toJson, Shape.decode, Timestamp.read_render]
  have second : Field.decode ⟨"data", .bytes, .optional⟩ (Value.blob bytes).toJson = .ok (.bytes bytes) :=
    decode_bytes bytes
  have own : ∀ field ∈ event.fields, event.fields.find? (·.name = field.name) = some field :=
    List.forall_mem_cons.mpr ⟨rfl, List.forall_mem_singleton.mpr rfl⟩
  let holds : Field → Content := fun field => if field.name = "at" then .timestamp t.asWritten else .bytes bytes
  exact event.decode_of_fits rfl own distinct holds
    (List.forall_mem_cons.mpr ⟨⟨_, moment, first⟩, List.forall_mem_singleton.mpr ⟨_, data, second⟩⟩)

end Mapping

namespace Row

variable {r : Row} {t : Timestamp} {bytes : List UInt8}

/-- Bytes come back from a row as they are, and a moment as it is written, whatever other columns the row has. With
the number 60 for a leap second that is the moment itself, and moments differ in their text; a leap second that has
not the number 60 shares its text with another moment and comes back as that one. -/
theorem deserialize_event (moment : r.last? "at" = some (.timestamp t)) (data : r.last? "data" = some (.blob bytes)) :
    r.deserialize Mapping.event.decode = .ok [("at", .timestamp t.asWritten), ("data", .bytes bytes)] ∧
      (t.clock.LeapsToSixty → t.asWritten = t ∧
        ∀ t' : Timestamp, t'.clock.LeapsToSixty → t ≠ t' → (Value.timestamp t).toJson ≠ (Value.timestamp t').toJson ∧
          (Value.timestamp t).toJson.render ≠ (Value.timestamp t').toJson.render) ∧
      (¬t.clock.LeapsToSixty → t.asWritten ≠ t ∧ (Value.timestamp t).toJson = (Value.timestamp t.asWritten).toJson) := by
  refine ⟨?_, fun leaps => ⟨Timestamp.asWritten_eq_self_iff.mpr leaps, fun t' leaps' other => ?_⟩, fun carried => ?_⟩
  · have members := r.find?_toJson
    have decoded := Mapping.decode_event (Json.sorted_sortMembers _).distinct
      ((members "at").trans (congrArg _ moment)) ((members "data").trans (congrArg _ data))
    rw [deserialize, toJson, Json.ofMembers, decoded]
  · have apart : t.render ≠ t'.render := by
      rwa [ne_eq, Timestamp.render_eq_iff, Timestamp.asWritten_eq_self_iff.mpr leaps,
        Timestamp.asWritten_eq_self_iff.mpr leaps']
    exact ⟨fun same => apart (Json.string.inj same), fun same => apart (Timestamp.quote_render_inj same)⟩
  · exact ⟨mt Timestamp.asWritten_eq_self_iff.mp carried, congrArg Json.string t.render_asWritten.symm⟩

/-- A leap second before the year 0, in the last of two columns of one name; and one behind another second than the
59th, which comes back as the next second. -/
theorem deserialize_event_leap :
    let date : Date := ⟨-44, 3, 15, by decide, by decide, by decide⟩
    let t : Timestamp := ⟨date, ⟨23, 59, 59, 1250000000, by decide, by decide, by decide, by decide⟩⟩
    let early : Timestamp := ⟨date, ⟨23, 56, 4, 1333333333, by decide, by decide, by decide, by decide⟩⟩
    let next : Timestamp := ⟨date, ⟨23, 56, 5, 333333333, by decide, by decide, by decide, by decide⟩⟩
    let r := ofColumns ["at", "data", "id", "at"] [.null, .blob [0, 255], .int 7, .timestamp t]
    let r' := ofColumns ["data", "at"] [.blob [], .timestamp early]
    t.render = "-0044-03-15T23:59:60.250" ∧
      r.deserialize Mapping.event.decode = .ok [("at", .timestamp t), ("data", .bytes [0, 255])] ∧
      early.render = "-0044-03-15T23:56:05.333333333" ∧
      r'.deserialize Mapping.event.decode = .ok [("at", .timestamp next), ("data", .bytes [])] := by
  intro date t early next r r'
  have text : t.render = "-0044-03-15T23:59:60.250" := by decide +kernel
  have moment : r.last? "at" = some (.timestamp t) := by rfl
  have data : r.last? "data" = some (.blob [0, 255]) := by rfl
  obtain ⟨back, itself, _⟩ := deserialize_event moment data
  have leaps : t.clock.LeapsToSixty := by decide
  rw [(itself leaps).1] at back
  have text' : early.render = "-0044-03-15T23:56:05.333333333" := by decide +kernel
  have moment' : r'.last? "at" = some (.timestamp early) := by rfl
  have data' : r'.last? "data" = some (.blob []) := by rfl
  obtain ⟨back', _⟩ := deserialize_event moment' data'
  have written : early.asWritten = next := by decide
  rw [written] at back'
  exact ⟨text, back, text', back'⟩

end Row

end TypedSql
