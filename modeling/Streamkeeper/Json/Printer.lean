import Streamkeeper.Json.Basic
import Streamkeeper.Decimal.Shortest

/-!
Writing JSON, on one line (`compact`) and indented by two spaces (`pretty`).

Both write the members of an object in their order.  In a string the quote, the backslash and the
control characters below the space are escaped and nothing else is, so neither form has a line feed
inside a string and the compact form has none at all.
-/

namespace Streamkeeper.Json

/-- A double is written without an exponent from 10^-5 up to, but not including, 10^16. -/
def realText (bits : UInt64) : List Char :=
  let s := Decimal.Shortest.ofBits bits
  Decimal.signed bits
    (if s.digits = [] ∨ (-5 < s.point ∧ s.point ≤ 16) then Decimal.positional s
     else Decimal.scientific s)

/-- A number as it is written. -/
def numberText : Number → List Char
  | .int n => if n < 0 then '-' :: Decimal.digits n.natAbs else Decimal.digits n.natAbs
  | .real bits => realText bits

/-- The escape of a control character that has no letter: four hexadecimal digits. -/
def controlEscape (c : Char) : List Char :=
  ['\\', 'u', '0', '0', Nat.digitChar (c.toNat / 16), Nat.digitChar (c.toNat % 16)]

/-- A character inside a string. -/
def escapeChar (c : Char) : List Char :=
  if c = '"' then ['\\', '"']
  else if c = '\\' then ['\\', '\\']
  else if c = '\x08' then ['\\', 'b']
  else if c = '\x0c' then ['\\', 'f']
  else if c = '\n' then ['\\', 'n']
  else if c = '\r' then ['\\', 'r']
  else if c = '\t' then ['\\', 't']
  else if c.toNat < 0x20 then controlEscape c
  else [c]

/-- A string between quotes. -/
def stringText (s : String) : List Char :=
  '"' :: (s.toList.flatMap escapeChar ++ ['"'])

/-- A truth value. -/
def boolText (b : Bool) : List Char :=
  if b then ['t', 'r', 'u', 'e'] else ['f', 'a', 'l', 's', 'e']

mutual

/-- A value on one line, without spaces. -/
def compactText : Json → List Char
  | .null => ['n', 'u', 'l', 'l']
  | .bool b => boolText b
  | .number n => numberText n
  | .string s => stringText s
  | .array items => '[' :: compactItems items
  | .object members => '\x7b' :: compactMembers members

/-- The elements of an array and its closing bracket. -/
def compactItems : List Json → List Char
  | [] => [']']
  | [x] => compactText x ++ [']']
  | x :: y :: rest => compactText x ++ ',' :: compactItems (y :: rest)

/-- The members of an object and its closing bracket. -/
def compactMembers : List (String × Json) → List Char
  | [] => ['\x7d']
  | [(k, v)] => stringText k ++ ':' :: (compactText v ++ ['\x7d'])
  | (k, v) :: m :: rest =>
    stringText k ++ ':' :: (compactText v ++ ',' :: compactMembers (m :: rest))

end

/-- A line feed and the indentation of a level. -/
def newline (level : Nat) : List Char :=
  '\n' :: List.replicate (2 * level) ' '

mutual

/-- A value over several lines; `level` is the depth of the value. -/
def prettyText (level : Nat) : Json → List Char
  | .null => ['n', 'u', 'l', 'l']
  | .bool b => boolText b
  | .number n => numberText n
  | .string s => stringText s
  | .array [] => ['[', ']']
  | .array (x :: rest) => '[' :: prettyItems level (x :: rest)
  | .object [] => ['\x7b', '\x7d']
  | .object (m :: rest) => '\x7b' :: prettyMembers level (m :: rest)

/-- The elements of an array at `level`, each on a line of its own, and its closing bracket. -/
def prettyItems (level : Nat) : List Json → List Char
  | [] => newline level ++ [']']
  | [x] => newline (level + 1) ++ prettyText (level + 1) x ++ newline level ++ [']']
  | x :: y :: rest =>
    newline (level + 1) ++ prettyText (level + 1) x ++ ',' :: prettyItems level (y :: rest)

/-- The members of an object at `level`, each on a line of its own, and its closing bracket. -/
def prettyMembers (level : Nat) : List (String × Json) → List Char
  | [] => newline level ++ ['\x7d']
  | [(k, v)] =>
    newline (level + 1) ++ stringText k ++ ':' :: ' ' :: prettyText (level + 1) v ++
      newline level ++ ['\x7d']
  | (k, v) :: m :: rest =>
    newline (level + 1) ++ stringText k ++ ':' :: ' ' :: prettyText (level + 1) v ++
      ',' :: prettyMembers level (m :: rest)

end

/-- The value on one line. -/
def compact (v : Json) : String :=
  String.ofList (compactText v)

/-- The value over several lines. -/
def pretty (v : Json) : String :=
  String.ofList (prettyText 0 v)

example : compact (.object [("a", .array [nat 1, .null]), ("b", .string "x\n")]) =
    "\x7b\"a\":[1,null],\"b\":\"x\\n\"\x7d" := by decide

end Streamkeeper.Json
