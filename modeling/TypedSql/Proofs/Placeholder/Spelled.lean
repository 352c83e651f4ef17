import TypedSql.Proofs.Binding
import TypedSql.Proofs.Placeholder.Lexing

namespace TypedSql.Placeholder

open Text

theorem positional_inj {m n : Nat} : positional m = positional n ↔ m = n := by
  refine ⟨fun h => ?_, fun h => by rw [h]⟩
  have chars := congrArg String.toList h
  simp only [positional, String.toList_append] at chars
  have digits : m.repr.toList = n.repr.toList := by simpa using chars
  rw [Nat.toList_repr, Nat.toList_repr] at digits
  rw [← @Nat.ofDigitChars_ten_toDigits m, digits, Nat.ofDigitChars_ten_toDigits]

/-- The token is a variable spelled exactly as a name. -/
def Token.Spells (t : Token) (name : String) : Prop := t.kind = .variable ∧ t.text = utf8 name

theorem Token.Spells.position?_eq {t : Token} {name : String} (h : t.Spells name) (bound : List String) :
    t.position? bound = (bound.findIdx? (Name.sameIgnoringCase · name)).map (· + 1) := by
  have same : (fun other => decide ((utf8 other).map lowerByte = (utf8 name).map lowerByte)) =
      (Name.sameIgnoringCase · name) := by
    funext other
    rw [Bool.eq_iff_iff, sameIgnoringCase_iff, decide_eq_true_iff]
  simp only [Token.position?, h.1, h.2, same, if_true]

variable {parameters : Parameters} {pairs : List (String × Value)} {name : String} {t : Token}

/-- The token is sent as a position that holds a value alike to the given one. -/
def Token.Carries (t : Token) (parameters : Parameters) (value : Value) : Prop :=
  ∃ position held, t.render parameters.names = utf8 (positional (position + 1)) ∧
    parameters.values[position]? = some held ∧ held.Alike value

/-- The first of some bound names that agrees with a name up to the case of ASCII letters. -/
def agreeing? (name : String) (pairs : List (String × Value)) : Option (String × Value) :=
  pairs.find? fun other => Name.sameIgnoringCase other.1 name

theorem find?_eraseDups (names : List String) (p : String → Bool) :
    names.eraseDups.find? p = names.find? p := by
  match names with
  | [] => rfl
  | name :: rest =>
    -- By length: what equals the first name is filtered out of the rest before the rest is looked through.
    have shorter := List.length_filter_le (fun other => !other == name) rest
    have ih := find?_eraseDups (rest.filter fun other => !other == name) p
    rw [List.eraseDups_cons, List.find?_cons, List.find?_cons, ih, List.find?_filter]
    cases hp : p name with
    | true => rfl
    | false =>
      have same : (fun other => decide ((!other == name) = true ∧ p other = true)) = p := by
        funext other
        by_cases equal : other = name
        · simp [equal, hp]
        · simp [equal]
      simp only [same]
termination_by names.length
decreasing_by
  simp only [List.length_cons]
  omega

theorem Token.Spells.render_eq (collects : parameters.Collects pairs) (h : t.Spells name)
    (mem : name ∈ pairs.map (·.1)) :
    ∃ position first value, t.render parameters.names = utf8 (positional (position + 1)) ∧
      parameters.values[position]? = some value ∧
      agreeing? name pairs = some first ∧ value.Alike first.2 := by
  have found := find?_eraseDups (pairs.map (·.1)) (Name.sameIgnoringCase · name)
  rw [← collects.names_eq, List.find?_eq_bind_findIdx?_getElem?, List.find?_map] at found
  have place := h.position?_eq parameters.names
  cases index : parameters.names.findIdx? (Name.sameIgnoringCase · name) with
  | none =>
    have there : name ∈ parameters.names := by
      rw [collects.names_eq]
      exact List.mem_eraseDups.mpr mem
    have itself : Name.sameIgnoringCase name name = true := sameIgnoringCase_iff.mpr rfl
    have := List.findIdx?_eq_none_iff.mp index name there
    simp [itself] at this
  | some position =>
    rw [index] at found place
    obtain ⟨inside, _⟩ := List.findIdx?_eq_some_iff_getElem.mp index
    have bound : position < parameters.entries.length := by simpa [Parameters.names] using inside
    have entry : parameters.entries[position]? = some parameters.entries[position] :=
      List.getElem?_eq_getElem bound
    rw [Option.bind_some, Parameters.names, List.getElem?_map, entry, Option.map_some] at found
    obtain ⟨first, firstFound, firstName⟩ := Option.map_eq_some_iff.mp found.symm
    refine ⟨position, first, parameters.entries[position].2, ?_, ?_, firstFound, ?_⟩
    · exact Token.render_of_position place
    · rw [Parameters.values, List.getElem?_map, entry, Option.map_some]
    · obtain ⟨value, held, alike⟩ := collects.find? first (List.mem_of_find?_eq_some firstFound)
      have own : Entries.find? parameters.entries[position].1 parameters.entries =
          some parameters.entries[position].2 :=
        Entries.find?_of_mem parameters.distinct (List.getElem_mem bound)
      rw [← firstName, held] at own
      rw [← Option.some.inj own]
      exact alike

/-- A variable spelled as a bound name carries the values that are alike to what was bound to the first
name that agrees with it, and no others. -/
theorem Token.Spells.carries_iff (collects : parameters.Collects pairs) (h : t.Spells name)
    (mem : name ∈ pairs.map (·.1)) (value : Value) :
    t.Carries parameters value ↔ ∀ first, agreeing? name pairs = some first → first.2.Alike value := by
  obtain ⟨place, first, held, rendered, there, found, alike⟩ := h.render_eq collects mem
  constructor
  · intro ⟨place', held', rendered', there', alike'⟩ first' found'
    have same : place = place' :=
      Nat.succ.inj (positional_inj.mp (utf8_inj.mp (rendered.symm.trans rendered')))
    subst same
    rw [← Option.some.inj (found.symm.trans found')]
    rw [Option.some.inj (there'.symm.trans there)] at alike'
    exact alike.symm.trans alike'
  · intro agrees
    exact ⟨place, held, rendered, there, alike.trans (agrees first found)⟩

theorem alike_of_distinct (collects : parameters.Collects pairs) {pair first : String × Value}
    (mem : pair ∈ pairs)
    (distinct : ∀ other ∈ pairs, Name.sameIgnoringCase other.1 pair.1 = true → other.1 = pair.1)
    (found : agreeing? pair.1 pairs = some first) : first.2.Alike pair.2 := by
  have first_mem := List.mem_of_find?_eq_some found
  have agrees : Name.sameIgnoringCase first.1 pair.1 = true := by simpa using List.find?_some found
  obtain ⟨value, held, alike⟩ := collects.find? pair mem
  obtain ⟨value', held', alike'⟩ := collects.find? first first_mem
  rw [distinct first first_mem agrees, held] at held'
  rw [← Option.some.inj held'] at alike'
  exact alike'.symm.trans alike

end TypedSql.Placeholder
