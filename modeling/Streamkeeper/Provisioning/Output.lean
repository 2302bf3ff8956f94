import Streamkeeper.Text.Blank
import Streamkeeper.Decimal.Digits

/-!
Reading the free-form output of the provisioning tool.

The tool reports `key: value` lines among others.  The value of a key is what follows the colon on
the first line that starts with the key and a colon, without the spaces around it; an empty value is
still a value.  The address of a gamelet is made of the values of `Host` and `Port`.
-/

namespace Streamkeeper

/-- A reachable SSH endpoint of a gamelet. -/
structure Address where
  host : String
  port : UInt16
deriving Repr, DecidableEq, Inhabited

namespace Provisioning

/-- The lines of a text, which line feeds alone separate. -/
def lines (cs : List Char) : List (List Char) :=
  cs.splitOn '\n'

/-- What follows `key:` on a line that starts so. -/
def afterKey? (key line : List Char) : Option (List Char) :=
  (key ++ [':']).isPrefixOf? line

/-- The value of a key in an output. -/
def value? (output key : List Char) : Option (List Char) :=
  ((lines output).findSome? (afterKey? key)).map (Text.trim Text.isOutputSpace)

/-- The number that a text begins with, in 64 bits: blanks, at most one sign, then digits; `0`
without digits. -/
def leadingInteger (cs : List Char) : Int64 :=
  match Text.trimStart Text.isBlank cs with
  | '-' :: rest => -Decimal.saturated (rest.takeWhile Char.isDigit)
  | '+' :: rest => Decimal.saturated (rest.takeWhile Char.isDigit)
  | rest => Decimal.saturated (rest.takeWhile Char.isDigit)

/-- The fields of the tool's answer. -/
inductive OutputField where
  | host
  | port
deriving Repr, DecidableEq

/-- The words for a field in error messages. -/
def OutputField.text : OutputField → String
  | .host => "host"
  | .port => "ssh port"

/-- A port that can be connected to. -/
def port? (n : Int64) : Option UInt16 :=
  if 1 ≤ n.toInt ∧ n.toInt ≤ 65535 then some n.toInt.toNat.toUInt16 else none

/-- The address that an output reports, or the first field that it lacks. -/
def address? (output : String) : Except OutputField Address :=
  match value? output.toList ['H', 'o', 's', 't'] with
  | none => .error .host
  | some host =>
    match ((value? output.toList ['P', 'o', 'r', 't']).map leadingInteger).bind port? with
    | none => .error .port
    | some port => .ok ⟨String.ofList host, port⟩

end Provisioning

end Streamkeeper
