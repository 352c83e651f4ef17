import Mathlib.Data.List.Basic
import TypedSql.SqlServer.Options

namespace TypedSql.SqlServer

variable {key value rest : List Char}

namespace ConnectionText

/-! How a text of keys and values is read: pair after pair, with a semicolon between them. -/

/-- A key runs to the first sign of equality. -/
def key? : List Char → Option (List Char × List Char)
  | [] => none
  | c :: rest => if c = '=' then some ([], rest) else (key? rest).map fun (key, behind) => (c :: key, behind)

/-- A quoted value runs to its quote; a doubled one stands for itself. -/
def quoted? (quote : Char) : List Char → Option (List Char × List Char)
  | [] => none
  | c :: rest =>
    if c = quote then
      match rest with
      | [] => some ([], [])
      | d :: further =>
        if d = quote then (quoted? quote further).map fun (value, behind) => (quote :: value, behind)
        else some ([], d :: further)
    else (quoted? quote rest).map fun (value, behind) => (c :: value, behind)

/-- A value that begins with a quote is a quoted one; any other runs to the next semicolon and is trimmed. -/
def value? : List Char → Option (List Char × List Char)
  | '"' :: rest => quoted? '"' rest
  | '\'' :: rest => quoted? '\'' rest
  | cs => some (Text.trim (cs.takeWhile (· ≠ ';')), cs.dropWhile (· ≠ ';'))

theorem length_key? {cs : List Char} (found : key? cs = some (key, rest)) : rest.length < cs.length := by
  induction cs generalizing key with
  | nil => cases found
  | cons c cs ih =>
    unfold key? at found
    split at found
    · cases found
      exact Nat.lt_succ_self _
    · obtain ⟨⟨own, _⟩, later, same⟩ := Option.map_eq_some_iff.mp found
      cases same
      exact Nat.lt_succ_of_lt (ih later)

theorem length_quoted? {quote : Char} {cs : List Char} (found : quoted? quote cs = some (value, rest)) :
    rest.length ≤ cs.length := by
  fun_induction quoted? quote cs generalizing value with
  | case1 => cases found
  | case2 =>
    cases found
    exact Nat.zero_le _
  | case3 further ih =>
    obtain ⟨⟨own, _⟩, later, same⟩ := Option.map_eq_some_iff.mp found
    cases same
    exact Nat.le_trans (ih later) (Nat.le_add_right _ 2)
  | case4 =>
    cases found
    exact Nat.le_succ _
  | case5 c cs _ ih =>
    obtain ⟨⟨own, _⟩, later, same⟩ := Option.map_eq_some_iff.mp found
    cases same
    exact Nat.le_succ_of_le (ih later)

theorem length_value? {cs : List Char} (found : value? cs = some (value, rest)) : rest.length ≤ cs.length := by
  unfold value? at found
  split at found
  · exact Nat.le_succ_of_le (length_quoted? found)
  · exact Nat.le_succ_of_le (length_quoted? found)
  · cases found
    exact (List.dropWhile_sublist _).length_le

def pair? (cs : List Char) : Option ((String × String) × List Char) :=
  (key? cs).bind fun (key, rest) =>
    (value? rest).map fun (value, behind) => ((String.ofList key, String.ofList value), behind)

theorem length_pair? {cs : List Char} {pair : String × String} (found : pair? cs = some (pair, rest)) :
    rest.length < cs.length := by
  obtain ⟨⟨key, behind⟩, named, valued⟩ := Option.bind_eq_some_iff.mp found
  obtain ⟨⟨value, _⟩, closed, same⟩ := Option.map_eq_some_iff.mp valued
  cases same
  exact Nat.lt_of_le_of_lt (length_value? closed) (length_key? named)

/-- The pairs of a text, if it is one of pairs. -/
def pairs? (cs : List Char) : Option (List (String × String)) :=
  if cs = [] then some []
  else
    match _ : pair? cs with
    | none => none
    | some (pair, []) => some [pair]
    | some (pair, c :: further) => if c = ';' then (pairs? further).map (pair :: ·) else none
termination_by cs.length
decreasing_by
  have shorter := length_pair? ‹pair? cs = _›
  rw [List.length_cons] at shorter
  omega

/-- What is behind a pair: nothing, or a semicolon and the next pair. -/
def Closes (rest : List Char) : Prop := ∀ c more, rest = c :: more → c = ';'

theorem key?_append (named : '=' ∉ key) (rest : List Char) : key? (key ++ '=' :: rest) = some (key, rest) := by
  induction key with
  | nil => rfl
  | cons c key ih =>
    obtain ⟨own, later⟩ := not_or.mp (mt List.mem_cons.mpr named)
    rw [List.cons_append, key?, if_neg (Ne.symm own), ih later]
    rfl

theorem quoted?_cons_of_ne {quote c : Char} (other : c ≠ quote) (cs : List Char) :
    quoted? quote (c :: cs) = (quoted? quote cs).map fun (value, behind) => (c :: value, behind) := by
  rw [quoted?.eq_def]
  exact if_neg other

theorem quoted?_doubled (closes : Closes rest) (value : List Char) :
    quoted? '"' (value.flatMap (fun c => if c = '"' then ['"', '"'] else [c]) ++ '"' :: rest) =
      some (value, rest) := by
  induction value with
  | nil =>
    cases rest with
    | nil => rfl
    | cons d further =>
      have other : d ≠ '"' := fun same => absurd ((closes d further rfl).symm.trans same) (by decide)
      simp [quoted?, other]
  | cons c value ih =>
    by_cases same : c = '"'
    · simp [quoted?, same, ih]
    · simp [quoted?_cons_of_ne same, same, ih]

theorem value?_bare (closes : Closes rest) (plain : ∀ c ∈ value, c ≠ ';' ∧ c ≠ '"' ∧ c ≠ '\'')
    (trimmed : Text.trim value = value) : value? (value ++ rest) = some (value, rest) := by
  have within : ∀ c ∈ value, decide (c ≠ ';') = true := fun c mem => decide_eq_true (plain c mem).1
  have behind : rest.takeWhile (· ≠ ';') = [] ∧ rest.dropWhile (· ≠ ';') = rest := by
    cases rest with
    | nil => exact ⟨rfl, rfl⟩
    | cons c more =>
      rw [closes c more rfl]
      exact ⟨rfl, rfl⟩
  have unquoted : ∀ c more, value ++ rest = c :: more → c ≠ '"' ∧ c ≠ '\'' := by
    intro c more whole
    cases value with
    | nil =>
      rw [closes c more whole]
      decide
    | cons first others =>
      cases whole
      exact (plain _ List.mem_cons_self).2
  unfold value?
  split
  · exact absurd rfl (unquoted _ _ ‹_›).1
  · exact absurd rfl (unquoted _ _ ‹_›).2
  · rw [List.takeWhile_append_of_pos within, List.dropWhile_append_of_pos within, behind.1, behind.2,
      List.append_nil, trimmed]

theorem value?_writeValue (closes : Closes rest) (value : String) :
    value? ((Options.writeValue value).toList ++ rest) = some (value.toList, rest) := by
  unfold Options.writeValue
  cases quotes : Options.needsQuotes value with
  | true =>
    rw [if_pos rfl, Options.quote, String.toList_ofList, List.cons_append, List.cons_append, List.append_assoc,
      List.singleton_append]
    exact quoted?_doubled closes value.toList
  | false =>
    obtain ⟨plain, trimmed⟩ := Bool.or_eq_false_iff.mp quotes
    rw [if_neg Bool.false_ne_true]
    refine value?_bare closes (fun c mem => ?_) (by simpa using trimmed)
    have ordinary := List.any_eq_false.mp plain c mem
    simpa [not_or, and_assoc] using ordinary

theorem pair?_writePair {pair : String × String} (named : '=' ∉ pair.1.toList) (closes : Closes rest) :
    pair? ((Options.writePair pair).toList ++ rest) = some (pair, rest) := by
  have whole : (Options.writePair pair).toList ++ rest =
      pair.1.toList ++ '=' :: ((Options.writeValue pair.2).toList ++ rest) := by
    simp only [Options.writePair, String.toList_append, List.append_assoc]
    rfl
  simp only [pair?, whole, key?_append named, Option.bind_some, value?_writeValue closes, Option.map_some,
    String.ofList_toList]

theorem pairs?_last {cs : List Char} {pair : String × String} (read : pair? cs = some (pair, [])) :
    pairs? cs = some [pair] := by
  have present : cs ≠ [] := fun empty => by
    rw [empty] at read
    cases read
  rw [pairs?, if_neg present]
  split <;> simp_all

theorem pairs?_semicolon {cs : List Char} {pair : String × String} (read : pair? cs = some (pair, ';' :: rest)) :
    pairs? cs = (pairs? rest).map (pair :: ·) := by
  have present : cs ≠ [] := fun empty => by
    rw [empty] at read
    cases read
  rw [pairs?, if_neg present]
  split <;> simp_all

/-- Pairs whose keys have no sign of equality are read back as they were written, whatever their values. -/
theorem pairs?_intercalate {pairs : List (String × String)} (named : ∀ pair ∈ pairs, '=' ∉ pair.1.toList) :
    pairs? (";".intercalate (pairs.map Options.writePair)).toList = some pairs := by
  induction pairs with
  | nil =>
    rw [pairs?]
    rfl
  | cons pair others ih =>
    have own := named pair List.mem_cons_self
    have later := ih fun other mem => named other (List.mem_cons_of_mem _ mem)
    cases others with
    | nil =>
      have read : pair? ((Options.writePair pair).toList ++ []) = some (pair, []) := pair?_writePair own nofun
      rw [List.append_nil] at read
      exact pairs?_last read
    | cons second others =>
      have closes : Closes (';' :: (";".intercalate ((second :: others).map Options.writePair)).toList) := by
        intro c more whole
        cases whole
        rfl
      have text : (";".intercalate ((pair :: second :: others).map Options.writePair)).toList =
          (Options.writePair pair).toList ++
            ';' :: (";".intercalate ((second :: others).map Options.writePair)).toList := by
        simp only [List.map_cons, String.intercalate_cons_cons, String.toList_append, List.append_assoc]
        rfl
      rw [text, pairs?_semicolon (pair?_writePair own closes), later, Option.map_some]

end ConnectionText

/-- Whatever the options hold, their connection string is read back as the pairs that they stand for: the address
of the server, the database, the user and the password, then the name of the application where there is one and
the trust in the certificate where it is given. Every value comes back as it is, so no field can change another
or add a pair. -/
theorem Options.connectionString_reads_back (o : Options) :
    ConnectionText.pairs? o.connectionString.toList = some (
      [("Server", "tcp:" ++ o.server ++
          match o.instance? with
          | some name => "\\" ++ name
          | none => "," ++ toString (o.tcpPort?.getD 1433)),
        ("Database", o.database), ("User Id", o.user), ("Password", o.password)] ++
      (match o.application? with
        | some name => [("Application Name", name)]
        | none => []) ++
      if o.trustCertificate then [("TrustServerCertificate", "true")] else []) := by
  have address : o.address = "tcp:" ++ o.server ++
      match o.instance? with
      | some name => "\\" ++ name
      | none => "," ++ toString (o.tcpPort?.getD 1433) := by
    unfold address
    cases o.instance? with
    | some name => exact String.append_assoc
    | none => exact String.append_assoc
  have named : ∀ pair ∈ o.pairs, '=' ∉ pair.1.toList := by
    intro pair mem
    have keys : o.pairs.map (·.1) ⊆ ["Server", "Database", "User Id", "Password", "Application Name",
        "TrustServerCertificate"] := by
      unfold pairs
      cases o.application? <;> cases o.trustCertificate <;> simp
    have known := keys (List.mem_map_of_mem mem)
    revert known
    generalize pair.1 = key
    revert key
    decide
  rw [connectionString, ConnectionText.pairs?_intercalate named, pairs, address]
  cases o.application? <;> rfl

end TypedSql.SqlServer
