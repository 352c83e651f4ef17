import TypedSql.Proofs.Placeholder.Recut
import TypedSql.Proofs.Placeholder.Spelled
import TypedSql.SqlServer.Batch
import TypedSql.SqlServer.Request

namespace TypedSql

open Placeholder Text

namespace Placeholder

theorem same_positional {position position' : Nat} :
    Name.sameIgnoringCase (positional position) (positional position') = true ↔ position = position' := by
  have lowered : ∀ n : Nat, (utf8 (toString n)).map lowerByte = utf8 (toString n) := by
    intro n
    have same : ∀ b ∈ utf8 (toString n), lowerByte b = id b := fun b mem => (isIdentifier_of_mem_toString b mem).2
    rw [List.map_congr_left same, List.map_id]
  rw [sameIgnoringCase_iff, ← positional_inj, ← utf8_inj, utf8_positional, utf8_positional]
  simp only [List.map_cons, lowered, List.cons.injEq, true_and]

/-- The token is a variable that reads as a name, up to the case of ASCII letters. -/
def Token.Reads (t : Token) (name : String) : Prop :=
  t.kind = .variable ∧ t.text.map lowerByte = (utf8 name).map lowerByte

/-- A variable that is replaced reads as its position and as no other. -/
theorem Token.reads_substituted {bound : List String} {t : Token} {place : Nat}
    (h : t.position? bound = some place) (position : Nat) :
    (t.substituted bound).Reads (positional position) ↔ place = position := by
  rw [← same_positional, sameIgnoringCase_iff]
  simp only [Reads, substituted, render_of_position h, kind_of_position? h, true_and]

theorem Token.substituted_of_unbound {bound : List String} {t : Token} (h : t.position? bound = none) :
    t.substituted bound = t := by
  simp only [substituted, render_of_unbound h]

end Placeholder

namespace SqlServer

theorem Request.mem_named {sql : String} {parameters : Parameters} {position : Nat} {argument : Argument} :
    (positional position, argument) ∈ (Request.new sql parameters).named ↔
      1 ≤ position ∧ (parameters.values.map Argument.ofValue)[position - 1]? = some argument := by
  unfold named
  rw [← List.mk_mem_zipIdx_iff_le_and_getElem?_sub, List.mem_map]
  constructor
  · intro ⟨⟨argument', position'⟩, mem, equal⟩
    obtain ⟨name, rfl⟩ := Prod.mk.inj equal
    rw [← positional_inj.mp name]
    exact mem
  · exact fun mem => ⟨_, mem, rfl⟩

theorem Request.named_position {sql : String} {parameters : Parameters} {position : Nat} :
    (∃ argument, (positional position, argument) ∈ (Request.new sql parameters).named) ↔
      1 ≤ position ∧ position ≤ parameters.size := by
  simp only [mem_named, exists_and_left, and_congr_right_iff]
  intro first
  have size : (parameters.values.map Argument.ofValue).length = parameters.size := by
    rw [List.length_map, Parameters.values, List.length_map, Parameters.size]
  rw [← Option.isSome_iff_exists, Option.isSome_iff_ne_none, Ne, List.getElem?_eq_none_iff, size]
  omega

/-- Whatever variable of the text that is sent reads as the name of an argument stands where the text had
a variable bound at the position of that argument. -/
def Hygienic (sql : String) (parameters : Parameters) (sent : Request) : Prop :=
  ∀ (i : Nat) (u : Token), (scanned sent.sql)[i]? = some u →
    ∀ position argument, (positional position, argument) ∈ sent.named → u.Reads (positional position) →
      ∃ t, (scanned sql)[i]? = some t ∧ t.position? parameters.names = some position

/-- The request that a text is sent as. -/
def Request.ofText (sql : String) (parameters : Parameters) : Request :=
  .new (substitute sql parameters.names) parameters

variable {sql : String} {parameters : Parameters}

theorem scanned_ofText (sql : String) (parameters : Parameters) :
    scanned (Request.ofText sql parameters).sql =
      (scanned sql).map (Token.substituted parameters.names) :=
  scanned_substitute sql parameters.names

theorem Hygienic.not_reads (h : Hygienic sql parameters (.ofText sql parameters)) {t : Token}
    (mem : t ∈ scanned sql) (unbound : t.position? parameters.names = none) {position : Nat}
    (first : 1 ≤ position) (last : position ≤ parameters.size) : ¬t.Reads (positional position) := by
  intro reads
  obtain ⟨i, there⟩ := List.mem_iff_getElem?.mp mem
  obtain ⟨argument, named⟩ := Request.named_position.mpr ⟨first, last⟩
  have kept : (scanned (Request.ofText sql parameters).sql)[i]? = some t := by
    rw [scanned_ofText, List.getElem?_map, there, Option.map_some, Token.substituted_of_unbound unbound]
  obtain ⟨t', there', bound⟩ := h i t kept position argument named reads
  rw [← Option.some.inj (there.symm.trans there'), unbound] at bound
  simp at bound

theorem hygienic_of_not_reads
    (free : ∀ t ∈ scanned sql, t.position? parameters.names = none →
      ∀ position, 1 ≤ position → position ≤ parameters.size → ¬t.Reads (positional position)) :
    Hygienic sql parameters (.ofText sql parameters) := by
  intro i u there position argument named reads
  rw [scanned_ofText, List.getElem?_map] at there
  obtain ⟨t, source, rfl⟩ := Option.map_eq_some_iff.mp there
  refine ⟨t, source, ?_⟩
  cases place : t.position? parameters.names with
  | none =>
    obtain ⟨first, last⟩ := Request.named_position.mp ⟨argument, named⟩
    rw [Token.substituted_of_unbound place] at reads
    exact absurd reads (free t (List.mem_of_getElem? source) place position first last)
  | some place' => rw [(Token.reads_substituted place position).mp reads]

/-- The text that is sent is cut where the text was cut, token by token, and its arguments are called by
the positions of the parameters. It is hygienic exactly if no variable of the text that is not bound
itself reads as one of these positions. As long as comments cannot nest too deep to be counted, the
tokens are those of the language. -/
theorem request_hygienic_iff (sql : String) (parameters : Parameters) (timeout : Option Nat)
    (countRows : Bool) :
    let command := Command.statement sql parameters timeout
    let sent := Request.new (commandText command countRows) command.parameters
    scanned sent.sql = (scanned sql).map (Token.substituted parameters.names) ∧
      (∀ position, (∃ argument, (positional position, argument) ∈ sent.named) ↔
        1 ≤ position ∧ position ≤ parameters.size) ∧
      (Hygienic sql parameters sent ↔
        ∀ t ∈ scanned sql, t.position? parameters.names = none →
          ∀ position, 1 ≤ position → position ≤ parameters.size → ¬t.Reads (positional position)) ∧
      (sql.utf8ByteSize < UInt32.size → scanned sql = tokens sql ∧ scanned sent.sql = tokens sent.sql) := by
  intro command sent
  refine ⟨scanned_ofText sql parameters, fun position => Request.named_position,
    ⟨?_, hygienic_of_not_reads⟩, ?_⟩
  · intro hygienic t mem unbound position first last
    exact hygienic.not_reads mem unbound first last
  · intro small
    exact ⟨scanned_eq_tokens small, scanned_substitute_eq_tokens small _⟩

/-- A variable of the text's own that reads as the position of a parameter is taken for the parameter. -/
theorem request_captures_local :
    let parameters := Parameters.empty.bind "x" (.int 7)
    let sent := Request.ofText "DECLARE @p1 INT = 5; SELECT @p1 + @x" parameters
    sent.sql = "DECLARE @p1 INT = 5; SELECT @p1 + @P1" ∧
      ¬Hygienic "DECLARE @p1 INT = 5; SELECT @p1 + @x" parameters sent := by
  intro parameters sent
  refine ⟨by decide +kernel, fun hygienic => ?_⟩
  have own : (⟨.variable, utf8 "@p1"⟩ : Token) ∈ scanned "DECLARE @p1 INT = 5; SELECT @p1 + @x" := by
    decide +kernel
  have unbound : Token.position? parameters.names ⟨.variable, utf8 "@p1"⟩ = none := by decide +kernel
  exact hygienic.not_reads own unbound (Nat.le_refl 1) (by decide) ⟨rfl, by decide +kernel⟩

end SqlServer

end TypedSql
