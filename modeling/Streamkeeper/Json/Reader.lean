import Streamkeeper.Json.Fault
import Streamkeeper.Decimal.Digits
import Streamkeeper.Text.Utf8

/-!
Reading JSON.

A reader takes what is left of a text and gives a value and what is left after it, or a fault.  The
readers of nested values are given the reader of one level less (`nested`), so that reading recurses
on the depth that is still allowed; the loops over elements, members and characters recurse on a
number of rounds that the length of the text bounds.
-/

namespace Streamkeeper.Json

/-- How many brackets may be open at a time. -/
def depthLimit : Nat := 127

/-- A fault at this place. -/
def faultHere (cause : Cause) (rest : List Char) : Fault := ⟨cause, rest, 0⟩

/-- A fault at this place whose report counts the next octet in. -/
def faultAtNext (cause : Cause) (rest : List Char) : Fault := ⟨cause, rest, 1⟩

/-- The characters between the parts of a text. -/
def isSeparator (c : Char) : Bool :=
  c == ' ' || c == '\t' || c == '\n' || c == '\r'

/-- Drops separators. -/
def skip (cs : List Char) : List Char :=
  cs.dropWhile isSeparator

/-- Takes the rest of a word such as `null`, character by character. -/
def ident (word : List Char) (v : Json) (cs : List Char) : Except Fault (Json × List Char) :=
  match word, cs with
  | [], cs => .ok (v, cs)
  | _ :: _, [] => .error (faultHere .endInValue [])
  | w :: ws, c :: rest =>
    if c = w then ident ws v rest else .error (faultAtNext .expectedIdent (c :: rest))

/-! ### Strings -/

/-- The value of a hexadecimal digit. -/
def hexValue? (c : Char) : Option Nat :=
  if c.isDigit then some (c.toNat - '0'.toNat)
  else if 'a' ≤ c ∧ c ≤ 'f' then some (c.toNat - 'a'.toNat + 10)
  else if 'A' ≤ c ∧ c ≤ 'F' then some (c.toNat - 'A'.toNat + 10)
  else none

/-- The number that hexadecimal digits denote. -/
def hexNumber? (cs : List Char) : Option Nat :=
  cs.foldlM (fun n c => (hexValue? c).map (n * 16 + ·)) 0

/-- Four hexadecimal digits.  A text with less than four octets left ends inside the string. -/
def hexEscape (cs : List Char) : Except Fault (Nat × List Char) :=
  let four := cs.take 4
  if octetCount (String.ofList four) < 4 then .error (faultHere .endInString [])
  else
    match hexNumber? four with
    | some n => if four.length = 4 then .ok (n, cs.drop 4) else .error ⟨.invalidEscape, cs, 4⟩
    | none => .error ⟨.invalidEscape, cs, 4⟩

/-- Takes one character that has to come next after a leading surrogate. -/
def surrogateLink (expected : Char) (cs : List Char) : Except Fault (List Char) :=
  match cs with
  | [] => .error (faultHere .endInString [])
  | c :: rest =>
    if c = expected then .ok rest else .error (faultAtNext .endOfHexEscape (c :: rest))

/-- The character that `\u` introduces: one code unit, or a pair of surrogates. -/
def unicodeEscape (cs : List Char) : Except Fault (Char × List Char) := do
  let (n, rest) ← hexEscape cs
  if 0xDC00 ≤ n ∧ n ≤ 0xDFFF then .error (faultHere .loneSurrogate rest)
  else if n < 0xD800 ∨ 0xDBFF < n then .ok (Char.ofNat n, rest)
  else
    let rest ← surrogateLink '\\' rest
    let rest ← surrogateLink 'u' rest
    let (m, rest) ← hexEscape rest
    if m < 0xDC00 ∨ 0xDFFF < m then .error (faultHere .loneSurrogate rest)
    else .ok (Char.ofNat ((n - 0xD800) * 0x400 + (m - 0xDC00) + 0x10000), rest)

/-- The character that a backslash introduces. -/
def escapeSequence (cs : List Char) : Except Fault (Char × List Char) :=
  match cs with
  | [] => .error (faultHere .endInString [])
  | c :: rest =>
    if c = '"' ∨ c = '\\' ∨ c = '/' then .ok (c, rest)
    else if c = 'b' then .ok ('\x08', rest)
    else if c = 'f' then .ok ('\x0c', rest)
    else if c = 'n' then .ok ('\n', rest)
    else if c = 'r' then .ok ('\r', rest)
    else if c = 't' then .ok ('\t', rest)
    else if c = 'u' then unicodeEscape rest
    else .error (faultAtNext .invalidEscape (c :: rest))

/-- The characters up to the closing quote. -/
def stringChars : (fuel : Nat) → List Char → Except Fault (List Char × List Char)
  | 0, _ => .error (faultHere .endInString [])
  | _ + 1, [] => .error (faultHere .endInString [])
  | fuel + 1, c :: rest =>
    if c = '"' then .ok ([], rest)
    else if c = '\\' then do
      let (d, rest) ← escapeSequence rest
      let (ds, rest) ← stringChars fuel rest
      .ok (d :: ds, rest)
    else if c.toNat < 0x20 then .error (faultAtNext .controlCharacter (c :: rest))
    else do
      let (ds, rest) ← stringChars fuel rest
      .ok (c :: ds, rest)

/-- A string after its opening quote. -/
def stringRest (cs : List Char) : Except Fault (String × List Char) := do
  let (ds, rest) ← stringChars (cs.length + 1) cs
  .ok (String.ofList ds, rest)

/-! ### Numbers -/

/-- The largest significand that is kept. -/
def significandLimit : Nat := Nat.pow 2 64

/-- Appends digits to a significand as long as it stays below the limit; also gives the digits that
were not taken. -/
def absorb (significand : Nat) : List Char → Nat × List Char
  | [] => (significand, [])
  | d :: ds =>
    let wider := significand * 10 + Decimal.value [d]
    if wider < significandLimit then absorb wider ds else (significand, d :: ds)

/-- `10^n` as a double, for the exponents up to 308. -/
def powerOfTen (n : Nat) : Float :=
  Float.ofScientific 1 false n

/-- Scales a double by a power of ten, by one multiplication or division where the power is a
double, and by steps of 10^308 below that. -/
def scaleFloat : (fuel : Nat) → Float → (exponent : Int) → Option Float
  | 0, f, _ => some f
  | fuel + 1, f, exponent =>
    if exponent.natAbs ≤ 308 then
      if 0 ≤ exponent then
        let g := f * powerOfTen exponent.toNat
        if g.isInf then none else some g
      else some (f / powerOfTen exponent.natAbs)
    else if f == 0.0 then some f
    else if 0 ≤ exponent then none
    else scaleFloat fuel (f / powerOfTen 308) (exponent + 308)

/-- The double for `± significand · 10^exponent`, unless it is too large. -/
def approximate? (negative : Bool) (significand : Nat) (exponent : Int) : Option Number :=
  (scaleFloat 4 significand.toUInt64.toFloat exponent).map fun f =>
    .real (if negative then -f else f).toBits

/-- The double, or a fault at this place. -/
def realNumber (negative : Bool) (significand : Nat) (exponent : Int) (rest : List Char) :
    Except Fault (Number × List Char) :=
  match approximate? negative significand exponent with
  | some n => .ok (n, rest)
  | none => .error (faultHere .numberOutOfRange rest)

/-- The bound of exponents. -/
def exponentLimit : Nat := Nat.pow 2 31

/-- The digits of an exponent, with the number of them that it takes to pass the bound. -/
def exponentValue (value : Nat) : List Char → Except (List Char) Nat
  | [] => .ok value
  | d :: ds =>
    let wider := value * 10 + Decimal.value [d]
    if wider < exponentLimit then exponentValue wider ds else .error ds

/-- Keeps an exponent inside its bounds. -/
def clampExponent (e : Int) : Int :=
  max (-(exponentLimit : Int)) (min e ((exponentLimit : Int) - 1))

/-- What follows the letter of an exponent. -/
def exponentPart (negative : Bool) (significand : Nat) (exponent : Int) (cs : List Char) :
    Except Fault (Number × List Char) :=
  let (minus, cs) := match cs with
    | '+' :: rest => (false, rest)
    | '-' :: rest => (true, rest)
    | rest => (false, rest)
  let (ds, rest) := Decimal.split cs
  if ds.isEmpty then
    if rest.isEmpty then .error (faultHere .endInValue [])
    else .error (faultAtNext .invalidNumber rest)
  else
    match exponentValue 0 ds with
    | .ok e =>
      let e : Int := if minus then -(e : Int) else e
      realNumber negative significand (clampExponent (exponent + e)) rest
    | .error left =>
      if significand ≠ 0 ∧ minus = false then
        .error (faultHere .numberOutOfRange (left ++ rest))
      else .ok (.real (if negative then -0.0 else 0.0 : Float).toBits, rest)

/-- What follows the digits of a number that is no integer: an exponent, or nothing. -/
def afterDigits (negative : Bool) (significand : Nat) (exponent : Int) (cs : List Char) :
    Except Fault (Number × List Char) :=
  match cs with
  | 'e' :: rest => exponentPart negative significand exponent rest
  | 'E' :: rest => exponentPart negative significand exponent rest
  | rest => realNumber negative significand exponent rest

/-- What follows the point of a number. -/
def fractionPart (negative : Bool) (significand : Nat) (exponent : Int) (cs : List Char) :
    Except Fault (Number × List Char) :=
  let (ds, rest) := Decimal.split cs
  if ds.isEmpty then
    if rest.isEmpty then .error (faultHere .endInValue [])
    else .error (faultAtNext .invalidNumber rest)
  else
    let (wider, left) := absorb significand ds
    afterDigits negative wider (exponent - ((ds.length : Int) - left.length)) rest

/-- An integer: it stays one as long as 64 bits hold it, and `-0` is a double. -/
def integer (negative : Bool) (n : Nat) : Number :=
  if negative = false then .int n
  else if n = 0 ∨ Nat.pow 2 63 < n then .real (-n.toUInt64.toFloat).toBits
  else .int (-(n : Int))

/-- A number after its sign. -/
def numberRest (negative : Bool) (cs : List Char) : Except Fault (Number × List Char) :=
  let (ds, rest) := Decimal.split cs
  match ds with
  | [] =>
    if rest.isEmpty then .error (faultHere .endInValue [])
    else .error (faultAtNext .invalidNumber rest)
  | '0' :: d :: ds => .error (faultAtNext .invalidNumber (d :: ds ++ rest))
  | ds =>
    let (significand, left) := absorb 0 ds
    match rest with
    | '.' :: rest => fractionPart negative significand left.length rest
    | rest =>
      if left.isEmpty ∧ rest.head? ≠ some 'e' ∧ rest.head? ≠ some 'E' then
        .ok (integer negative significand, rest)
      else afterDigits negative significand left.length rest

/-! ### Arrays and objects -/

/-- The elements of an array after its opening bracket, and the closing one. -/
def elements (read : List Char → Except Fault (Json × List Char)) :
    (fuel : Nat) → (isFirst : Bool) → List Char → Except Fault (List Json × List Char)
  | 0, _, _ => .error (faultHere .endInArray [])
  | fuel + 1, isFirst, cs =>
    let element (cs : List Char) : Except Fault (List Json × List Char) := do
      let (x, rest) ← read cs
      let (xs, rest) ← elements read fuel false rest
      .ok (x :: xs, rest)
    match skip cs with
    | [] => .error (faultHere .endInArray [])
    | c :: rest =>
      if c = ']' then .ok ([], rest)
      else if isFirst then element (c :: rest)
      else if c = ',' then
        match skip rest with
        | [] => .error (faultHere .endInValue [])
        | d :: rest =>
          if d = ']' then .error (faultAtNext .trailingComma (d :: rest)) else element (d :: rest)
      else .error (faultAtNext .expectedCommaOrBracket (c :: rest))

/-- The colon between a key and its value. -/
def colon (cs : List Char) : Except Fault (List Char) :=
  match skip cs with
  | [] => .error (faultHere .endInObject [])
  | c :: rest => if c = ':' then .ok rest else .error (faultAtNext .expectedColon (c :: rest))

/-- The members of an object after its opening bracket, and the closing one.  `member` takes a
state, a key and what follows the key. -/
def members {σ : Type} (member : σ → String → List Char → Except Fault (σ × List Char)) :
    (fuel : Nat) → (isFirst : Bool) → σ → List Char → Except Fault (σ × List Char)
  | 0, _, _, _ => .error (faultHere .endInObject [])
  | fuel + 1, isFirst, s, cs =>
    let keyed (cs : List Char) : Except Fault (σ × List Char) :=
      match cs with
      | [] => .error (faultHere .endInValue [])
      | c :: rest =>
        if c = '"' then do
          let (key, rest) ← stringRest rest
          let (s, rest) ← member s key rest
          members member fuel false s rest
        else .error (faultAtNext .keyNotString (c :: rest))
    match skip cs with
    | [] => .error (faultHere .endInObject [])
    | c :: rest =>
      if c = '\x7d' then .ok (s, rest)
      else if isFirst then keyed (c :: rest)
      else if c = ',' then
        match skip rest with
        | [] => .error (faultHere .endInValue [])
        | d :: rest =>
          if d = '\x7d' then .error (faultAtNext .trailingComma (d :: rest)) else keyed (d :: rest)
      else .error (faultAtNext .expectedCommaOrBrace (c :: rest))

/-- Adds a member to those read so far, last first. -/
def plainMember (read : List Char → Except Fault (Json × List Char))
    (sofar : List (String × Json)) (key : String) (cs : List Char) :
    Except Fault (List (String × Json) × List Char) := do
  let rest ← colon cs
  let (v, rest) ← read rest
  .ok ((key, v) :: sofar, rest)

/-! ### Values -/

/-- A value whose elements or members are read by `nested`, if any are allowed. -/
def valueWith (nested : Option (List Char → Except Fault (Json × List Char))) (cs : List Char) :
    Except Fault (Json × List Char) :=
  match skip cs with
  | [] => .error (faultHere .endInValue [])
  | c :: rest =>
    if c = 'n' then ident ['u', 'l', 'l'] .null rest
    else if c = 't' then ident ['r', 'u', 'e'] (.bool true) rest
    else if c = 'f' then ident ['a', 'l', 's', 'e'] (.bool false) rest
    else if c = '"' then do
      let (s, rest) ← stringRest rest
      .ok (.string s, rest)
    else if c = '-' then do
      let (n, rest) ← numberRest true rest
      .ok (.number n, rest)
    else if c.isDigit then do
      let (n, rest) ← numberRest false (c :: rest)
      .ok (.number n, rest)
    else if c = '[' then
      match nested with
      | none => .error (faultAtNext .nestedTooDeep (c :: rest))
      | some read => do
        let (xs, rest) ← elements read (rest.length + 1) true rest
        .ok (.array xs, rest)
    else if c = '\x7b' then
      match nested with
      | none => .error (faultAtNext .nestedTooDeep (c :: rest))
      | some read => do
        let (ms, rest) ← members (plainMember read) (rest.length + 1) true [] rest
        .ok (.object ms.reverse, rest)
    else .error (faultAtNext .expectedValue (c :: rest))

/-- A value in which `depth` brackets may be open at a time. -/
def value : (depth : Nat) → List Char → Except Fault (Json × List Char)
  | 0, cs => valueWith none cs
  | depth + 1, cs => valueWith (some (value depth)) cs

/-- Nothing but separators may be left. -/
def finish (cs : List Char) : Except Fault Unit :=
  match skip cs with
  | [] => .ok ()
  | c :: rest => .error (faultAtNext .trailingCharacters (c :: rest))

/-- Runs a reader on a whole text. -/
def readAll {α : Type} (read : List Char → Except Fault (α × List Char)) (text : List Char) :
    Except ReadError α :=
  let outcome : Except Fault α := do
    let (v, rest) ← read text
    finish rest
    .ok v
  outcome.mapError fun f => f.inText text

/-- The value that a text denotes, with the members of objects in the order of the text. -/
def read? (text : String) : Except ReadError Json :=
  readAll (value depthLimit) text.toList

end Streamkeeper.Json
