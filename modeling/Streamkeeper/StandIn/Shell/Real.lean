import Streamkeeper.Decimal.Shortest
import Streamkeeper.StandIn.Shell.Characters

/-!
Floating-point numbers of formatted output.

A word is read as the nearest number that a format can hold, and written with a number of digits that
the caller chooses.  Both round to the nearest, a tie to the even neighbour, and both work on exact
fractions.
-/

namespace Streamkeeper.StandIn.Shell

open Decimal.Shortest (Ratio)

/-- A number, or what stands in for one. -/
inductive Magnitude where
  | finite (r : Ratio)
  | infinite
  | undefined

/-- A number with a sign. -/
structure Real where
  negative : Bool
  magnitude : Magnitude

/-- What a binary format can hold: the length of its mantissa, and its least and greatest exponents. -/
structure Precision where
  bits : Nat
  least : Int
  most : Int

namespace Precision

/-- Numbers of 64 bits. -/
def double : Precision := ⟨53, -1074, 1024⟩

/-- Numbers of 80 bits. -/
def extended : Precision := ⟨64, -16445, 16384⟩

end Precision

namespace Real

/-- The quotient, rounded to the nearest natural number. -/
def roundDiv (num den : Nat) : Nat :=
  let q := num / den
  let twice := 2 * (num % den)
  if twice < den then q else if den < twice then q + 1 else if q % 2 = 0 then q else q + 1

/-- `r / 2^e`, rounded. -/
def mantissa (r : Ratio) (e : Int) : Nat :=
  if 0 ≤ e then roundDiv r.num (r.den * Nat.pow 2 e.toNat) else roundDiv (r.num * Nat.pow 2 (-e).toNat) r.den

/-- The nearest number of a format, and whether it is out of its range. -/
def nearest (p : Precision) (r : Ratio) : Magnitude × Bool :=
  if r.num = 0 then (.finite ⟨0, 1⟩, false)
  else
    let guess : Int := (Nat.log2 r.num : Int) - (Nat.log2 r.den : Int) - p.bits
    let fits (e : Int) : Bool :=
      if 0 ≤ e then decide (r.num < r.den * Nat.pow 2 (e.toNat + p.bits))
      else decide (r.num * Nat.pow 2 (-e).toNat < r.den * Nat.pow 2 p.bits)
    let e := if fits guess then guess else guess + 1
    let e := max e p.least
    let m := mantissa r e
    let value := Ratio.ofBinary m e
    if (m = Nat.pow 2 p.bits ∨ Nat.log2 m + 1 = p.bits) ∧ p.most < e + (Nat.log2 m + 1 : Nat) then
      (.infinite, true)
    else (.finite value, m = 0)

/-! ### Reading -/

/-- The part of a number after its letter for the exponent. -/
def exponent? (letter : Char) (cs : List Char) : Int × List Char :=
  match cs with
  | c :: rest =>
    if c.toLower = letter then
      let (sign, ds) : Int × List Char := match rest with
        | '-' :: ds => (-1, ds)
        | '+' :: ds => (1, ds)
        | ds => (1, ds)
      let front := ds.takeWhile Char.isDigit
      if front.isEmpty then (0, cs)
      else (sign * (min (Nat.ofDigitChars 10 front 0) 100000 : Nat), ds.drop front.length)
    else (0, cs)
  | [] => (0, [])

/-- The number that digits in a base denote. -/
def digitsValue (base : Nat) (ds : List Char) : Nat :=
  ds.foldl (fun n c =>
    n * base + (if c.isDigit then c.toNat - '0'.toNat else c.toLower.toNat - 'a'.toNat + 10)) 0

/-- A fraction in a base, without a sign, and what follows it. -/
def fraction? (base : Nat) (cs : List Char) : Option (Ratio × List Char) :=
  let isDigit (c : Char) : Bool :=
    c.isDigit || (base == 16 && 'a' ≤ c.toLower && c.toLower ≤ 'f')
  let whole := cs.takeWhile isDigit
  let rest := cs.drop whole.length
  let (part, rest) : List Char × List Char := match rest with
    | '.' :: after =>
      let ds := after.takeWhile isDigit
      if whole.isEmpty && ds.isEmpty then ([], rest) else (ds, after.drop ds.length)
    | _ => ([], rest)
  if whole.isEmpty && part.isEmpty then none
  else
    let r : Ratio := ⟨digitsValue base (whole ++ part), Nat.pow base part.length⟩
    if base = 16 then
      let (e, rest) := exponent? 'p' rest
      some (if 0 ≤ e then ⟨r.num * Nat.pow 2 e.toNat, r.den⟩ else ⟨r.num, r.den * Nat.pow 2 (-e).toNat⟩, rest)
    else
      let (e, rest) := exponent? 'e' rest
      some (r.scale e, rest)

/-- A word, in letters of either case, at the beginning of a text. -/
def word? (w : String) (cs : List Char) : Option (List Char) :=
  w.toList.isPrefixOf? (cs.map Char.toLower) |>.map fun rest => cs.drop (cs.length - rest.length)

/-- The number at the beginning of a text, whether it is out of range, and what follows it. -/
def ofChars? (p : Precision) (cs : List Char) : Option (Real × Bool × List Char) :=
  let (negative, cs) : Bool × List Char := match cs.dropWhile isSpace with
    | '-' :: rest => (true, rest)
    | '+' :: rest => (false, rest)
    | rest => (false, rest)
  match (word? "infinity" cs).or (word? "inf" cs) with
  | some rest => some (⟨negative, .infinite⟩, false, rest)
  | none =>
    match word? "nan" cs with
    | some rest => some (⟨negative, .undefined⟩, false, rest)
    | none =>
      let found := match word? "0x" cs with
        | some rest => (fraction? 16 rest).or (fraction? 10 cs)
        | none => fraction? 10 cs
      found.map fun (r, rest) =>
        let (m, outside) := nearest p r
        (⟨negative, m⟩, outside && r.num != 0, rest)

/-! ### Writing -/

/-- Digits with a point before the last `places` of them; `always` keeps a point at the end. -/
def withPoint (n places : Nat) (always : Bool) : List Char :=
  let ds := ofNumber n
  let ds := List.replicate (places + 1 - ds.length) '0' ++ ds
  let whole := ds.take (ds.length - places)
  if places = 0 then if always then whole ++ ['.'] else whole
  else whole ++ '.' :: ds.drop (ds.length - places)

/-- A number with some digits after the point. -/
def fixed (r : Ratio) (places : Nat) (always : Bool) : List Char :=
  withPoint (roundDiv (r.num * Nat.pow 10 places) r.den) places always

/-- A number as digits, of which the first one stands before the point, and an exponent. -/
def scaled (r : Ratio) (places : Nat) : Nat × Int :=
  if r.num = 0 then (0, 0)
  else
    let point := Decimal.Shortest.pointOf r
    let s := r.scale ((places : Int) + 1 - point)
    let n := roundDiv s.num s.den
    if n = Nat.pow 10 (places + 1) then (Nat.pow 10 places, point) else (n, point - 1)

/-- An exponent with its sign and at least two digits. -/
def exponentText (letter : Char) (e : Int) : List Char :=
  let ds := ofNumber e.natAbs
  letter :: (if e < 0 then '-' else '+') :: (List.replicate (2 - ds.length) '0' ++ ds)

/-- A number with an exponent. -/
def scientific (r : Ratio) (places : Nat) (always : Bool) : List Char :=
  let (n, e) := scaled r places
  withPoint n places always ++ exponentText 'e' e

/-- Drops zeros at the end of the digits after a point, and the point if nothing is left. -/
def withoutZeros (cs : List Char) : List Char :=
  if cs.contains '.' then
    let cs := (cs.reverse.dropWhile (· == '0'))
    ((if cs.head? = some '.' then cs.tail else cs)).reverse
  else cs

/-- A number in the shorter of both forms. -/
def general (r : Ratio) (places : Nat) (always : Bool) : List Char :=
  let digits := max places 1
  let (n, e) := scaled r (digits - 1)
  let strip (cs : List Char) : List Char := if always then cs else withoutZeros cs
  if e < -4 ∨ (digits : Int) ≤ e then
    strip (withPoint n (digits - 1) always) ++ exponentText 'e' e
  else strip (fixed r ((digits : Int) - 1 - e).toNat always)

/-- A number without its sign, as the directive of a letter writes it. -/
def text (m : Magnitude) (letter : Char) (places : Option Nat) (always : Bool) : List Char :=
  let cs : List Char := match m with
    | .infinite => ['i', 'n', 'f']
    | .undefined => ['n', 'a', 'n']
    | .finite r =>
      let places := places.getD 6
      match letter.toLower with
      | 'f' => fixed r places always
      | 'e' => scientific r places always
      | _ => general r places always
  if letter.isUpper then cs.map Char.toUpper else cs

end Real

end Streamkeeper.StandIn.Shell
