import Streamkeeper.Text.Utf8

/-!
The characters of scripts.

A script works on octets.  Its texts are lists of characters below 256, one for each octet, so that
text which is not UTF-8 passes through unharmed.
-/

namespace Streamkeeper.StandIn.Shell

/-- The characters that stand for octets. -/
def ofOctets (bs : Octets) : List Char :=
  bs.map fun b => Char.ofNat b.toNat

/-- The octets that characters stand for. -/
def toOctets (cs : List Char) : Octets :=
  cs.map fun c => c.toNat.toUInt8

/-- The characters that stand for the octets of a string. -/
def ofString (s : String) : List Char :=
  ofOctets (octets s)

/-- A path or a name as a string. -/
def toName (cs : List Char) : String :=
  String.ofList (Text.Utf8.decodeLossy (toOctets cs))

/-- The digits of a number. -/
def ofNumber (n : Nat) : List Char :=
  (Nat.repr n).toList

/-- Letters and the underscore. -/
def startsName (c : Char) : Bool :=
  c.isAlpha || c == '_'

/-- Letters, digits and the underscore. -/
def isNameChar (c : Char) : Bool :=
  c.isAlphanum || c == '_'

/-- Is the text a name? -/
def isName (cs : List Char) : Bool :=
  match cs with
  | c :: cs => startsName c && cs.all isNameChar
  | [] => false

/-- The parameters that are one character long. -/
def isSpecial (c : Char) : Bool :=
  ['@', '*', '#', '?', '-', '$', '!'].contains c || c.isDigit

/-- The brace that opens. -/
def openBrace : Char := '\x7b'

/-- The brace that closes. -/
def closeBrace : Char := '\x7d'

/-- The old quote of nested scripts. -/
def graveAccent : Char := '\x60'

/-- The blanks around numbers. -/
def isSpace (c : Char) : Bool :=
  c == ' ' || ('\t' ≤ c && c ≤ '\r')

/-- The number that a word of digits denotes. -/
def natural? (cs : List Char) : Option Nat :=
  if cs.isEmpty || !cs.all Char.isDigit then none else some (Nat.ofDigitChars 10 cs 0)

/-- The number that a word with a sign denotes; blanks around it do not count. -/
def integer? (cs : List Char) : Option Int :=
  let digits (cs : List Char) : Option Nat :=
    let front := cs.takeWhile Char.isDigit
    if (cs.dropWhile Char.isDigit).all isSpace then natural? front else none
  match cs.dropWhile isSpace with
  | '-' :: rest => (digits rest).map fun n => -(n : Int)
  | '+' :: rest => (digits rest).map fun n => (n : Int)
  | rest => (digits rest).map fun n => (n : Int)

end Streamkeeper.StandIn.Shell
