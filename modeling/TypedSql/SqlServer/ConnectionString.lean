import TypedSql.Entries
import TypedSql.Failure
import TypedSql.Name
import TypedSql.SqlServer.Options

namespace TypedSql.SqlServer

inductive ConnectionFlaw where
  | notAscii
  | noEquals
  | emptyKey
  | unclosedSingleQuote
  | unclosedDoubleQuote
  | unclosedBrace
  | afterQuoted
  | afterBrace
  | address
  | portNotDigits
  | portEmpty
  | portTooLarge
  | notTruth
  | trustTwice
  deriving DecidableEq

namespace ConnectionFlaw

def detail : ConnectionFlaw → String
  | .notAscii => "Conversion error: the connection string contains non-ASCII characters"
  | .noEquals => "Conversion error: key-value pairs must be joined by a \x60=\x60"
  | .emptyKey => "Conversion error: a key in the connection string is empty"
  | .unclosedSingleQuote => "Conversion error: the connection string has an unclosed single quote"
  | .unclosedDoubleQuote => "Conversion error: the connection string has an unclosed double quote"
  | .unclosedBrace => "Conversion error: the connection string has an unclosed brace \x60\x7b\x60"
  | .afterQuoted => "Conversion error: unexpected characters after a quoted value"
  | .afterBrace =>
    "Conversion error: unexpected characters after a \x60\x7b…\x7d\x60 value; quote with '' or \"\" if the value contains \x60\x7d\x60"
  | .address => "Conversion error: Server value faulty."
  | .portNotDigits => "Error parsing an integer: invalid digit found in string"
  | .portEmpty => "Error parsing an integer: cannot parse integer from empty string"
  | .portTooLarge => "Error parsing an integer: number too large to fit in target type"
  | .notTruth => "Conversion error: Connection string: Not a valid boolean"
  | .trustTwice =>
    "Conversion error: 'TrustServerCertificate' and 'TrustServerCertificateCA' are mutually exclusive; specify only one"

def failure (flaw : ConnectionFlaw) : Failure :=
  .configuration ("invalid SQL Server connection string: " ++ flaw.detail)

end ConnectionFlaw

namespace ConnectionString

abbrev Read (α : Type) := Except ConnectionFlaw (α × List Char)

/-- Blanks around a key or a value are those of ASCII. -/
def skipBlanks (cs : List Char) : List Char := cs.dropWhile Text.isAsciiBlank

/-- A key runs to the first single equals sign; a doubled one stands for itself. -/
def readKey (done : List Char) : List Char → Read String
  | [] => .error .noEquals
  | '=' :: '=' :: rest => readKey ('=' :: done) rest
  | '=' :: rest =>
    let key := Text.dropTrailing Text.isAsciiBlank (skipBlanks done.reverse)
    if key.isEmpty then .error .emptyKey else .ok (String.ofList (key.map Name.lowerAscii), rest)
  | c :: rest => if c = ';' then .error .noEquals else readKey (c :: done) rest

/-- A quoted value runs to its quote; a doubled one stands for itself. -/
def readQuoted (quote : Char) (unclosed : ConnectionFlaw) (done : List Char) : List Char → Read String
  | [] => .error unclosed
  | c :: rest =>
    if c = quote then
      match rest with
      | d :: further =>
        if d = quote then readQuoted quote unclosed (quote :: done) further
        else .ok (String.ofList done.reverse, rest)
      | [] => .ok (String.ofList done.reverse, [])
    else readQuoted quote unclosed (c :: done) rest

/-- A value in braces runs to the first closing brace. -/
def readBraced (cs : List Char) : Read String :=
  match cs.dropWhile (· ≠ '\x7d') with
  | [] => .error .unclosedBrace
  | _ :: rest => .ok (String.ofList (cs.takeWhile (· ≠ '\x7d')), rest)

/-- Nothing but blanks may stand between a closed value and the next pair. -/
def expectEnd (flaw : ConnectionFlaw) (value : String) (cs : List Char) : Read String :=
  match skipBlanks cs with
  | [] => .ok (value, [])
  | c :: rest => if c = ';' then .ok (value, c :: rest) else .error flaw

def readValue (cs : List Char) : Except ConnectionFlaw (String × List Char) :=
  match skipBlanks cs with
  | '\'' :: rest => do
    let (value, rest) ← readQuoted '\'' .unclosedSingleQuote [] rest
    expectEnd .afterQuoted value rest
  | '"' :: rest => do
    let (value, rest) ← readQuoted '"' .unclosedDoubleQuote [] rest
    expectEnd .afterQuoted value rest
  | '\x7b' :: rest => do
    let (value, rest) ← readBraced rest
    expectEnd .afterBrace value rest
  | bare =>
    .ok (String.ofList (Text.dropTrailing Text.isAsciiBlank (bare.takeWhile (· ≠ ';'))),
      bare.dropWhile (· ≠ ';'))

def skipBetween (cs : List Char) : List Char := cs.dropWhile fun c => c = ';' || Text.isAsciiBlank c

/-- Reads pair after pair; `fuel` bounds their number. -/
def readPairs : (fuel : Nat) → List Char → Except ConnectionFlaw (List (String × String))
  | 0, _ => .ok []
  | fuel + 1, cs =>
    match skipBetween cs with
    | [] => .ok []
    | start => do
      let (key, rest) ← readKey [] start
      let (value, rest) ← readValue rest
      return (key, value) :: (← readPairs fuel rest)

def pairs (text : String) : Except ConnectionFlaw (List (String × String)) := do
  let cs := text.toList
  if cs.any fun c => 128 ≤ c.toNat then throw .notAscii
  return Entries.putAll [] (← readPairs (cs.length + 1) cs)

end ConnectionString

inductive Encryption where
  | unspecified
  | off
  | required
  | strict
  | plaintext
  deriving DecidableEq, Inhabited

structure Settings where
  host : String
  tcpPort : Nat
  instance? : Option String
  user : String
  password : String
  database : String
  application : String
  encryption : Encryption
  trustCertificate : Bool
  deriving Inhabited

namespace Settings

def first? (pairs : List (String × String)) (keys : List String) : Option String :=
  keys.findSome? fun key => Entries.find? key pairs

/-- Reads a TCP number digit by digit; what comes first, a character that is no digit or a number past
sixteen bits, is reported. -/
def tcpDigits (n : Nat) : List Char → Except ConnectionFlaw Nat
  | [] => .ok n
  | c :: rest =>
    if '0' ≤ c && c ≤ '9' then
      let next := n * 10 + (c.toNat - 48)
      if next < Nat.pow 2 16 then tcpDigits next rest else .error .portTooLarge
    else .error .portNotDigits

def readTcpPort : List Char → Except ConnectionFlaw Nat
  | [] => .error .portEmpty
  | ['+'] => .error .portNotDigits
  | '+' :: rest => tcpDigits 0 rest
  | cs => tcpDigits 0 cs

def splitAt (separator : Char) : List Char → List (List Char)
  | [] => [[]]
  | c :: rest =>
    match splitAt separator rest with
    | [] => [[c]]
    | part :: parts => if c = separator then [] :: part :: parts else (c :: part) :: parts

/-- Where the directory of a machine's instances listens. -/
def browserTcpPort : Nat := 1434

/-- The host that a name stands for: a point and a bracketed word mean this machine. -/
def hostOf (name : List Char) : String :=
  let name := String.ofList name
  if name = "." || name = "(local)" then "localhost" else name

def readAddress (address : String) :
    Except ConnectionFlaw (String × Nat × Option String) := do
  let cs := match address.toList with
    | 't' :: 'c' :: 'p' :: ':' :: rest => rest
    | cs => cs
  let (name, given?) ← match splitAt ',' cs with
    | [name] => pure (name, none)
    | [name, given] => pure (name, some (← readTcpPort given))
    | _ => throw .address
  match splitAt '\\' name with
  | host :: inst :: _ => return (hostOf host, given?.getD browserTcpPort, some (String.ofList inst))
  | _ => return (hostOf name, given?.getD defaultTcpPort, none)

def readTruth (value : String) : Except ConnectionFlaw Bool :=
  match String.ofList ((Text.trim value.toList).map Name.lowerAscii) with
  | "true" | "yes" => .ok true
  | "false" | "no" => .ok false
  | _ => .error .notTruth

def readEncryption : Option String → Except ConnectionFlaw Encryption
  | none => .ok .unspecified
  | some value =>
    if value = "DANGER_PLAINTEXT" then .ok .plaintext
    else if Name.sameIgnoringCase value "strict" then .ok .strict
    else (readTruth value).map fun b => if b then .required else .off

/-- A flag, off where it is absent. -/
def readFlag (pairs : List (String × String)) (key : String) : Except ConnectionFlaw Bool :=
  match Entries.find? key pairs with
  | none => .ok false
  | some value => readTruth value

def defaultApplication : String := "tiberius"

def ofPairs (pairs : List (String × String)) : Except ConnectionFlaw Settings := do
  let (host, tcpPort, instance?) ← match first? pairs ["server", "data source"] with
    | some address => readAddress address
    | none => pure ("localhost", defaultTcpPort, none)
  let trustCertificate ← readFlag pairs "trustservercertificate"
  if trustCertificate && (Entries.find? "trustservercertificateca" pairs).isSome then
    throw .trustTwice
  let encryption ← readEncryption (Entries.find? "encrypt" pairs)
  let _ ← readFlag pairs "multisubnetfailover"
  return {
    host, tcpPort, instance?, encryption, trustCertificate
    user := (first? pairs ["uid", "username", "user", "user id"]).getD ""
    password := (first? pairs ["password", "pwd"]).getD ""
    database := (first? pairs ["database", "initial catalog", "databasename"]).getD ""
    application := (first? pairs ["application name", "applicationname"]).getD defaultApplication }

end Settings

def readConnectionString (text : String) : Except Failure Settings :=
  match (ConnectionString.pairs text) >>= Settings.ofPairs with
  | .ok settings => .ok settings
  | .error flaw => .error flaw.failure

/-- The connection string of some options, provided that it reads. -/
def Options.build (o : Options) : Except Failure String :=
  (readConnectionString o.connectionString).map fun _ => o.connectionString

end TypedSql.SqlServer
