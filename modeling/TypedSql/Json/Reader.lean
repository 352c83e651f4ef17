import TypedSql.Json

namespace TypedSql.Json

inductive Flaw where
  | endInList
  | endInObject
  | endInString
  | endInValue
  | expectedColon
  | expectedCommaInList
  | expectedCommaInObject
  | expectedWord
  | expectedValue
  | invalidEscape
  | invalidNumber
  | numberOutOfRange
  | controlCharacter
  | nameNotText
  | loneSurrogate
  | unfinishedSurrogate
  | trailingComma
  | trailingCharacters
  | tooDeep
  deriving DecidableEq

def Flaw.message : Flaw → String
  | .endInList => "EOF while parsing a list"
  | .endInObject => "EOF while parsing an object"
  | .endInString => "EOF while parsing a string"
  | .endInValue => "EOF while parsing a value"
  | .expectedColon => "expected \x60:\x60"
  | .expectedCommaInList => "expected \x60,\x60 or \x60]\x60"
  | .expectedCommaInObject => "expected \x60,\x60 or \x60\x7d\x60"
  | .expectedWord => "expected ident"
  | .expectedValue => "expected value"
  | .invalidEscape => "invalid escape"
  | .invalidNumber => "invalid number"
  | .numberOutOfRange => "number out of range"
  | .controlCharacter =>
    "control character (\\u0000-\\u001F) found while parsing a string"
  | .nameNotText => "key must be a string"
  | .loneSurrogate => "lone leading surrogate in hex escape"
  | .unfinishedSurrogate => "unexpected end of hex escape"
  | .trailingComma => "trailing comma"
  | .trailingCharacters => "trailing characters"
  | .tooDeep => "recursion limit exceeded"

/-- A flaw, the text that was left when it showed, and how many of its bytes were looked at. -/
structure Fault where
  flaw : Flaw
  rest : List Char
  ahead : Nat
  deriving DecidableEq

abbrev Reading (α : Type) := Except Fault (α × List Char)

/-- The flaw lies in what was just read. -/
def failBehind {α : Type} (flaw : Flaw) (rest : List Char) : Except Fault α :=
  .error ⟨flaw, rest, 0⟩

/-- The flaw lies in what comes next, of which one byte is enough to see it. -/
def failAhead {α : Type} (flaw : Flaw) (rest : List Char) : Except Fault α :=
  .error ⟨flaw, rest, 1⟩

def byteLength (cs : List Char) : Nat := cs.foldr (fun c n => c.utf8Size + n) 0

def isBlank (c : Char) : Bool := c = ' ' || c = '\n' || c = '\t' || c = '\r'

def skipBlank (cs : List Char) : List Char := cs.dropWhile isBlank

def word : List Char → List Char → Except Fault (List Char)
  | [], rest => .ok rest
  | _ :: _, [] => failBehind .endInValue []
  | e :: es, c :: rest => if c = e then word es rest else failAhead .expectedWord (c :: rest)

def hexValue? (c : Char) : Option Nat :=
  if '0' ≤ c && c ≤ '9' then some (c.toNat - 48)
  else if 'a' ≤ c && c ≤ 'f' then some (c.toNat - 87)
  else if 'A' ≤ c && c ≤ 'F' then some (c.toNat - 55)
  else none

def hexUnit? (a b c d : Char) : Option Nat := do
  let a ← hexValue? a
  let b ← hexValue? b
  let c ← hexValue? c
  let d ← hexValue? d
  return ((a * 16 + b) * 16 + c) * 16 + d

def isLeading (unit : Nat) : Bool := 0xd800 ≤ unit && unit < 0xdc00

def isTrailing (unit : Nat) : Bool := 0xdc00 ≤ unit && unit < 0xe000

def joinUnits (leading trailing : Nat) : Char :=
  Char.ofNat ((leading - 0xd800) * 1024 + (trailing - 0xdc00) + 0x10000)

def shortEscape? : Char → Option Char
  | '"' => some '"'
  | '\\' => some '\\'
  | '/' => some '/'
  | 'b' => some '\x08'
  | 'f' => some '\x0c'
  | 'n' => some '\n'
  | 'r' => some '\r'
  | 't' => some '\t'
  | _ => none

/-- An escape takes the four bytes that follow; they are no number, or the text ends before them. -/
def failUnit {α : Type} (rest : List Char) : Except Fault α :=
  if byteLength rest < 4 then failBehind .endInString [] else .error ⟨.invalidEscape, rest, 4⟩

def stringBody (done : List Char) : List Char → Reading String
  | [] => failBehind .endInString []
  | '"' :: rest => .ok (String.ofList done.reverse, rest)
  | '\\' :: 'u' :: a :: b :: c :: d :: rest =>
    match hexUnit? a b c d with
    | none => failUnit (a :: b :: c :: d :: rest)
    | some unit =>
      if isTrailing unit then failBehind .loneSurrogate rest
      else if isLeading unit then
        match rest with
        | '\\' :: 'u' :: e :: f :: g :: h :: rest =>
          match hexUnit? e f g h with
          | none => failUnit (e :: f :: g :: h :: rest)
          | some next =>
            if isTrailing next then stringBody (joinUnits unit next :: done) rest
            else failBehind .loneSurrogate rest
        | '\\' :: 'u' :: rest => failUnit rest
        | '\\' :: c :: rest => failAhead .unfinishedSurrogate (c :: rest)
        | ['\\'] => failBehind .endInString []
        | c :: rest => failAhead .unfinishedSurrogate (c :: rest)
        | [] => failBehind .endInString []
      else stringBody (Char.ofNat unit :: done) rest
  | '\\' :: 'u' :: rest => failUnit rest
  | '\\' :: c :: rest =>
    match shortEscape? c with
    | some d => stringBody (d :: done) rest
    | none => failAhead .invalidEscape (c :: rest)
  | ['\\'] => failBehind .endInString []
  | c :: rest =>
    if c.toNat < 32 then failBehind .controlCharacter rest else stringBody (c :: done) rest

/-- The digits read so far, as long as they fit 64 bits, and the power of ten they stand at. -/
structure Mantissa where
  digits : Nat
  exponent : Int

/-- Appends a digit unless the number would no longer fit 64 bits. -/
def Mantissa.push? (m : Mantissa) (c : Char) : Option Mantissa :=
  let digits := m.digits * 10 + (c.toNat - 48)
  if digits < Nat.pow 2 64 then some ⟨digits, m.exponent⟩ else none

/-- Scales by one power of ten in double arithmetic; a step of 308 places is taken while more remain. -/
def scale (x : Binary64) (exponent : Int) : Option Binary64 :=
  let tenTo := fun (n : Nat) => Binary64.ofDecimal false 1 n
  if exponent < -308 then
    if x.isZero then some x else scale (x / tenTo 308) (exponent + 308)
  else if exponent < 0 then some (x / tenTo (-exponent).toNat)
  else if 308 < exponent then if x.isZero then some x else none
  else
    let y := x * tenTo exponent.toNat
    if y.isFinite then some y else none
termination_by (-exponent).toNat
decreasing_by omega

def finish (negative : Bool) (m : Mantissa) (rest : List Char) : Reading Json :=
  match scale (Binary64.ofInt m.digits) m.exponent with
  | none => failBehind .numberOutOfRange rest
  | some x => .ok (.double (Binary64.ofFields negative (x.bits.toNat % Nat.pow 2 63)), rest)

def isDigit (c : Char) : Bool := '0' ≤ c && c ≤ '9'

/-- The number of an exponent, as long as it fits 32 bits with a sign; one that does not is read only
up to the digit that shows it. -/
def exponentDigits (n : Nat) : List Char → Option Nat × List Char
  | [] => (some n, [])
  | c :: rest =>
    if isDigit c then
      let next := n * 10 + (c.toNat - 48)
      if next < Nat.pow 2 31 then exponentDigits next rest else (none, rest)
    else (some n, c :: rest)

/-- A number whose exponent is beyond 32 bits: zero, unless it is too large. -/
def exponentOverflow (negative down : Bool) (m : Mantissa) (rest : List Char) : Reading Json :=
  if down || m.digits = 0 then .ok (.double (Binary64.ofFields negative 0), rest.dropWhile isDigit)
  else failBehind .numberOutOfRange rest

def exponentPart (negative : Bool) (m : Mantissa) (cs : List Char) : Reading Json :=
  let (down, cs) := match cs with
    | '+' :: rest => (false, rest)
    | '-' :: rest => (true, rest)
    | rest => (false, rest)
  match cs with
  | [] => failBehind .endInValue []
  | c :: _ =>
    if isDigit c then
      match exponentDigits 0 cs with
      | (some size, rest) =>
        let shift : Int := if down then -(size : Int) else size
        finish negative ⟨m.digits, m.exponent + shift⟩ rest
      | (none, rest) => exponentOverflow negative down m rest
    else failAhead .invalidNumber cs

/-- Digits that no longer fit are dropped; before the point they still count as places. -/
def wholeOverflow (m : Mantissa) (cs : List Char) : Mantissa × List Char :=
  let digits := cs.takeWhile isDigit
  (⟨m.digits, m.exponent + digits.length⟩, cs.dropWhile isDigit)

/-- Digits after the point: each one that fits moves the number one place down. -/
def fractionDigits (m : Mantissa) : List Char → Mantissa × List Char
  | [] => (m, [])
  | c :: rest =>
    if isDigit c then
      match m.push? c with
      | some next => fractionDigits ⟨next.digits, m.exponent - 1⟩ rest
      | none => (m, rest.dropWhile isDigit)
    else (m, c :: rest)

def fractionPart (negative : Bool) (m : Mantissa) (cs : List Char) : Reading Json :=
  match cs with
  | [] => failAhead .endInValue []
  | c :: _ =>
    if isDigit c then
      match fractionDigits m cs with
      | (m, 'e' :: rest) => exponentPart negative m rest
      | (m, 'E' :: rest) => exponentPart negative m rest
      | (m, rest) => finish negative m rest
    else failAhead .invalidNumber cs

def wholeDigits (m : Mantissa) : List Char → Mantissa × List Char × Bool
  | [] => (m, [], true)
  | c :: rest =>
    if isDigit c then
      match m.push? c with
      | some next => wholeDigits next rest
      | none =>
        let (m, rest) := wholeOverflow m (c :: rest)
        (m, rest, false)
    else (m, c :: rest, true)

/-- An integer that fits 64 bits stays one; minus zero and all others are doubles. -/
def integerOrDouble (negative : Bool) (m : Mantissa) (exact : Bool) (rest : List Char) :
    Reading Json :=
  let n : Int := if negative then -m.digits else m.digits
  if exact && !(negative && m.digits = 0) then .ok (ofInt n, rest)
  else finish negative m rest

def number (negative : Bool) (cs : List Char) : Reading Json :=
  match cs with
  | [] => failBehind .endInValue []
  | c :: rest =>
    if !isDigit c then failAhead .invalidNumber (c :: rest)
    else if c = '0' && (rest.head?.any isDigit) then failAhead .invalidNumber rest
    else
      match wholeDigits ⟨0, 0⟩ cs with
      | (m, '.' :: rest, _) => fractionPart negative m rest
      | (m, 'e' :: rest, _) => exponentPart negative m rest
      | (m, 'E' :: rest, _) => exponentPart negative m rest
      | (m, rest, exact) => integerOrDouble negative m exact rest

mutual

/-- Reads a value; `fuel` bounds the characters and `depth` the open brackets. -/
def value (fuel depth : Nat) (cs : List Char) : Reading Json :=
  match fuel with
  | 0 => failAhead .expectedValue cs
  | fuel + 1 =>
    match skipBlank cs with
    | [] => failAhead .endInValue []
    | 'n' :: rest => (word ['u', 'l', 'l'] rest).map fun rest => (.null, rest)
    | 't' :: rest => (word ['r', 'u', 'e'] rest).map fun rest => (.bool true, rest)
    | 'f' :: rest => (word ['a', 'l', 's', 'e'] rest).map fun rest => (.bool false, rest)
    | '-' :: rest => number true rest
    | '"' :: rest => (stringBody [] rest).map fun (s, rest) => (.string s, rest)
    | '[' :: rest =>
      if depth ≤ 1 then failAhead .tooDeep ('[' :: rest)
      else items fuel (depth - 1) [] rest
    | '\x7b' :: rest =>
      if depth ≤ 1 then failAhead .tooDeep ('\x7b' :: rest)
      else members fuel (depth - 1) true [] rest
    | c :: rest => if isDigit c then number false (c :: rest) else failAhead .expectedValue (c :: rest)

def items (fuel depth : Nat) (done : List Json) (cs : List Char) : Reading Json :=
  match fuel with
  | 0 => failAhead .expectedValue cs
  | fuel + 1 =>
    match skipBlank cs with
    | [] => failAhead .endInList []
    | ']' :: rest => .ok (.array done.reverse, rest)
    | c :: rest =>
      if done.isEmpty then
        match value fuel depth (c :: rest) with
        | .error fault => .error fault
        | .ok (item, rest) => items fuel depth [item] rest
      else if c = ',' then
        match skipBlank rest with
        | [] => failAhead .endInValue []
        | ']' :: rest => failAhead .trailingComma (']' :: rest)
        | rest =>
          match value fuel depth rest with
          | .error fault => .error fault
          | .ok (item, rest) => items fuel depth (item :: done) rest
      else failAhead .expectedCommaInList (c :: rest)

def members (fuel depth : Nat) (first : Bool) (done : List (String × Json)) (cs : List Char) :
    Reading Json :=
  match fuel with
  | 0 => failAhead .expectedValue cs
  | fuel + 1 =>
    match skipBlank cs with
    | [] => failAhead .endInObject []
    | '\x7d' :: rest => .ok (.object done, rest)
    | '"' :: rest =>
      if first then member fuel depth done rest
      else failAhead .expectedCommaInObject ('"' :: rest)
    | c :: rest =>
      if first then failAhead .nameNotText (c :: rest)
      else if c = ',' then
        match skipBlank rest with
        | [] => failAhead .endInValue []
        | '"' :: rest => member fuel depth done rest
        | '\x7d' :: rest => failAhead .trailingComma ('\x7d' :: rest)
        | rest => failAhead .nameNotText rest
      else failAhead .expectedCommaInObject (c :: rest)

def member (fuel depth : Nat) (done : List (String × Json)) (cs : List Char) : Reading Json :=
  match fuel with
  | 0 => failAhead .expectedValue cs
  | fuel + 1 =>
    match stringBody [] cs with
    | .error fault => .error fault
    | .ok (name, rest) =>
      match skipBlank rest with
      | [] => failAhead .endInObject []
      | ':' :: rest =>
        match value fuel depth rest with
        | .error fault => .error fault
        | .ok (item, rest) => members fuel depth false (insertMember name item done) rest
      | rest => failAhead .expectedColon rest

end

/-- Brackets may be nested one less deep than this. -/
def depthLimit : Nat := 128

def document (text : List Char) : Except Fault Json :=
  match value (3 * text.length + 3) depthLimit text with
  | .error fault => .error fault
  | .ok (json, rest) =>
    match skipBlank rest with
    | [] => .ok json
    | rest => failAhead .trailingCharacters rest

/-- The line and the column, counted in bytes, that are reached some bytes further on. -/
def advance (line column : Nat) : (bytes : Nat) → List Char → Nat × Nat
  | 0, _ => (line, column)
  | _ + 1, [] => (line, column)
  | bytes + 1, c :: rest =>
    if c = '\n' then advance (line + 1) 0 bytes rest
    else advance line (column + min (bytes + 1) c.utf8Size) (bytes + 1 - c.utf8Size) rest

def Fault.place (fault : Fault) (text : List Char) : Nat × Nat :=
  advance 1 0 (byteLength text - byteLength fault.rest + fault.ahead) text

def Fault.message (fault : Fault) (text : List Char) : String :=
  let (line, column) := fault.place text
  s!"{fault.flaw.message} at line {line} column {column}"

def parse (text : String) : Except String Json :=
  match document text.toList with
  | .ok json => .ok json
  | .error fault => .error (fault.message text.toList)

end TypedSql.Json
