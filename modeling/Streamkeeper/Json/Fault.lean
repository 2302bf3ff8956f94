import Streamkeeper.Json.Printer
import Streamkeeper.Text.Literal

/-!
What can be wrong with a JSON text, and where.

A `Fault` is met while reading: its cause and what was left of the text there.  A `ReadError` is
what the reader of the whole text reports: the cause, and the line and column of the place if it has
one.  A `Mismatch` is a value of the wrong shape for what was expected of it.
-/

namespace Streamkeeper.Json

/-- What was found where something else was expected. -/
inductive Found where
  | integer (n : Int)
  | real (bits : UInt64)
  | string (s : String)
  | boolean (b : Bool)
  | null
  | sequence
  | map
deriving Repr, DecidableEq

/-- What a value is, for a report. -/
def found : Json → Found
  | .null => .null
  | .bool b => .boolean b
  | .number (.int n) => .integer n
  | .number (.real bits) => .real bits
  | .string s => .string s
  | .array _ => .sequence
  | .object _ => .map

/-- The words for what was found. -/
def Found.text : Found → String
  | .integer n => s!"integer `{Decimal.intText n}`"
  | .real bits => s!"floating point `{String.ofList (realText bits)}`"
  | .string s => s!"string {Text.Literal.string s}"
  | .boolean b => s!"boolean `{Text.Literal.bool b}`"
  | .null => "null"
  | .sequence => "sequence"
  | .map => "map"

/-- A value of the wrong shape. -/
inductive Mismatch where
  | invalidType (found : Found) (expected : String)
  | invalidValue (found : Found) (expected : String)
  | invalidLength (length : Nat) (expected : String)
  | missingField (name : String)
  | duplicateField (name : String)
  | unknownVariant (name : String) (known : List String)
deriving Repr, DecidableEq

/-- A name as reports show it. -/
def tick (name : String) : String :=
  s!"`{name}`"

/-- The sentence that reports a mismatch. -/
def Mismatch.message : Mismatch → String
  | .invalidType f e => s!"invalid type: {f.text}, expected {e}"
  | .invalidValue f e => s!"invalid value: {f.text}, expected {e}"
  | .invalidLength n e => s!"invalid length {n}, expected {e}"
  | .missingField name => s!"missing field `{name}`"
  | .duplicateField name => s!"duplicate field `{name}`"
  | .unknownVariant name known =>
    let choices := String.intercalate ", " (known.map tick)
    s!"unknown variant `{name}`, expected one of {choices}"

/-- What is wrong at a place of a text. -/
inductive Cause where
  | endInValue
  | endInObject
  | endInArray
  | endInString
  | expectedValue
  | expectedIdent
  | keyNotString
  | expectedColon
  | expectedCommaOrBrace
  | expectedCommaOrBracket
  | trailingComma
  | trailingCharacters
  | invalidNumber
  | numberOutOfRange
  | invalidEscape
  | loneSurrogate
  | endOfHexEscape
  | controlCharacter
  | nestedTooDeep
  | mismatch (m : Mismatch)
deriving Repr, DecidableEq

/-- The sentence that reports a cause, without its place. -/
def Cause.message : Cause → String
  | .endInValue => "EOF while parsing a value"
  | .endInObject => "EOF while parsing an object"
  | .endInArray => "EOF while parsing a list"
  | .endInString => "EOF while parsing a string"
  | .expectedValue => "expected value"
  | .expectedIdent => "expected ident"
  | .keyNotString => "key must be a string"
  | .expectedColon => "expected `:`"
  | .expectedCommaOrBrace => "expected `,` or `\x7d`"
  | .expectedCommaOrBracket => "expected `,` or `]`"
  | .trailingComma => "trailing comma"
  | .trailingCharacters => "trailing characters"
  | .invalidNumber => "invalid number"
  | .numberOutOfRange => "number out of range"
  | .invalidEscape => "invalid escape"
  | .loneSurrogate => "lone leading surrogate in hex escape"
  | .endOfHexEscape => "unexpected end of hex escape"
  | .controlCharacter => "control character (\\u0000-\\u001F) found while parsing a string"
  | .nestedTooDeep => "recursion limit exceeded"
  | .mismatch m => m.message

/-- A place in a text: its line, counted from one, and the number of octets before it on that
line. -/
structure Position where
  line : Nat
  column : Nat
deriving Repr, DecidableEq

namespace Position

/-- The beginning of a text. -/
def start : Position := ⟨1, 0⟩

/-- The place after one more character. -/
def next (p : Position) (c : Char) : Position :=
  if c = '\n' then ⟨p.line + 1, 0⟩ else ⟨p.line, p.column + c.utf8Size⟩

/-- The place after more characters. -/
def after (p : Position) (cs : List Char) : Position :=
  cs.foldl next p

/-- The place some octets further on, which may lie inside a character. -/
def afterOctets (p : Position) : (count : Nat) → List Char → Position
  | 0, _ => p
  | _, [] => p
  | count + 1, c :: cs =>
    if c.utf8Size ≤ count + 1 then (p.next c).afterOctets (count + 1 - c.utf8Size) cs
    else ⟨p.line, p.column + (count + 1)⟩
  termination_by _ cs => cs.length

end Position

/-- A cause, what was left of the text, and how many of the octets left belong to the place. -/
structure Fault where
  cause : Cause
  rest : List Char
  extra : Nat
deriving Repr, DecidableEq

/-- What reading a text reports. -/
structure ReadError where
  cause : Cause
  position : Option Position
deriving Repr, DecidableEq

/-- A mismatch of a value that was read already, so that its place is no longer known. -/
def ReadError.ofMismatch (m : Mismatch) : ReadError :=
  ⟨.mismatch m, none⟩

/-- The report of a fault met in `text`. -/
def Fault.inText (f : Fault) (text : List Char) : ReadError :=
  let here := Position.start.after (text.take (text.length - f.rest.length))
  ⟨f.cause, some (here.afterOctets f.extra f.rest)⟩

/-- The sentence that reports an error, with its place if it has one. -/
def ReadError.message (e : ReadError) : String :=
  match e.position with
  | some p => s!"{e.cause.message} at line {p.line} column {p.column}"
  | none => e.cause.message

end Streamkeeper.Json
