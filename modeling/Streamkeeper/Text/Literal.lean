import Streamkeeper.Text.Visible

/-!
Values as literals, for messages that show a value to a developer.

A string literal stands between double quotes.  Inside, the control characters that have a letter
are written with it, quotes and backslashes are escaped, and every other character that is not
visible on its own is written by its code point.
-/

namespace Streamkeeper.Text.Literal

/-- The digits of a code point, in lower-case hexadecimal. -/
def hexDigits (n : Nat) : List Char :=
  Nat.toDigits 16 n

/-- One character of a literal. -/
def escape (c : Char) : List Char :=
  if c = '\x00' then ['\\', '0']
  else if c = '\t' then ['\\', 't']
  else if c = '\r' then ['\\', 'r']
  else if c = '\n' then ['\\', 'n']
  else if c = '\\' ∨ c = '"' then ['\\', c]
  else if isVisible c then [c]
  else ['\\', 'u', '\x7b'] ++ hexDigits c.toNat ++ ['\x7d']

/-- The literal of a string. -/
def string (s : String) : String :=
  String.ofList (['"'] ++ s.toList.flatMap escape ++ ['"'])

/-- A list of literals, in brackets. -/
def list (items : List String) : String :=
  "[" ++ String.intercalate ", " items ++ "]"

/-- A record: its name, then its fields in braces. -/
def record (name : String) (fields : List (String × String)) : String :=
  name ++ " \x7b " ++ String.intercalate ", " (fields.map fun f => f.1 ++ ": " ++ f.2) ++ " \x7d"

/-- A keyed collection in braces, without a name. -/
def map (entries : List (String × String)) : String :=
  "\x7b" ++ String.intercalate ", " (entries.map fun e => e.1 ++ ": " ++ e.2) ++ "\x7d"

/-- The literal of a truth value. -/
def bool (b : Bool) : String :=
  if b then "true" else "false"

example : string "a\"\n" = "\"a\\\"\\n\"" := by decide

end Streamkeeper.Text.Literal
