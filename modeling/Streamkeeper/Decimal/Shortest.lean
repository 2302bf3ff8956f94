import Streamkeeper.Decimal.Digits

/-!
The shortest decimal that reads back as a given binary floating-point number.

A positive double is `m · 2^q`.  The reals that round to it form an interval around it, whose ends
belong to it when `m` is even.  For one digit, two digits, and so on, the two neighbours of the
number on the grid of that many digits are tried; the first grid with a neighbour inside the
interval gives the digits, and of two such neighbours the nearer one, on a tie the even one.
-/

namespace Streamkeeper.Decimal

/-- The decimal `0.d₁d₂… · 10^point`, given by its digits. -/
structure Shortest where
  digits : List Char
  point : Int
deriving Repr, DecidableEq

namespace Shortest

/-- A fraction of natural numbers. -/
structure Ratio where
  num : Nat
  den : Nat

/-- `n · 2^e`. -/
def Ratio.ofBinary (n : Nat) (e : Int) : Ratio :=
  if 0 ≤ e then ⟨n * Nat.pow 2 e.toNat, 1⟩ else ⟨n, Nat.pow 2 (-e).toNat⟩

/-- `r · 10^e`. -/
def Ratio.scale (r : Ratio) (e : Int) : Ratio :=
  if 0 ≤ e then ⟨r.num * Nat.pow 10 e.toNat, r.den⟩ else ⟨r.num, r.den * Nat.pow 10 (-e).toNat⟩

/-- The number of zeros between the point and the first digit of a fraction below one. -/
def leadingZeros : (fuel : Nat) → Ratio → Nat
  | 0, _ => 0
  | fuel + 1, r => if r.den ≤ r.num * 10 then 0 else leadingZeros fuel ⟨r.num * 10, r.den⟩ + 1

/-- The position of the point: `10^(k-1) ≤ r < 10^k`. -/
def pointOf (r : Ratio) : Int :=
  if r.den ≤ r.num then ((Decimal.digits (r.num / r.den)).length : Int)
  else - (leadingZeros 400 r : Int)

/-- The interval of the reals that round to a number, and the number itself, on one scale. -/
structure Interval where
  low : Ratio
  middle : Ratio
  high : Ratio
  closed : Bool

/-- Does the natural number `d` lie in the interval scaled by `10^e`? -/
def Interval.contains (i : Interval) (e : Int) (d : Nat) : Bool :=
  let low := i.low.scale e
  let high := i.high.scale e
  if i.closed then low.num ≤ d * low.den && d * high.den ≤ high.num
  else low.num < d * low.den && d * high.den < high.num

/-- The digits on the grid of `n` digits, if one of the two neighbours lies in the interval. -/
def onGrid? (i : Interval) (point : Int) (n : Nat) : Option Nat :=
  let e : Int := (n : Int) - point
  let middle := i.middle.scale e
  let d := middle.num / middle.den
  match i.contains e d, i.contains e (d + 1) with
  | true, true =>
    let twice := 2 * (middle.num - d * middle.den)
    if twice < middle.den || (twice == middle.den && d % 2 == 0) then some d else some (d + 1)
  | true, false => some d
  | false, true => some (d + 1)
  | false, false => none

/-- Drops the zeros at the end. -/
def dropZeros (cs : List Char) : List Char :=
  (cs.reverse.dropWhile (· == '0')).reverse

/-- Tries the grids from `n` digits on. -/
def search (i : Interval) (point : Int) : (fuel n : Nat) → Shortest
  | 0, _ => ⟨[], point⟩
  | fuel + 1, n =>
    match onGrid? i point n with
    | some d =>
      let ds := Decimal.digits d
      ⟨dropZeros ds, point + ((ds.length : Int) - n)⟩
    | none => search i point fuel (n + 1)

/-- The shortest decimal of the double with these bits, whatever its sign; no digits for zero. -/
def ofBits (bits : UInt64) : Shortest :=
  let exponent : Nat := (bits.toNat / Nat.pow 2 52) % Nat.pow 2 11
  let fraction : Nat := bits.toNat % Nat.pow 2 52
  let m : Nat := if exponent = 0 then fraction else fraction + Nat.pow 2 52
  let q : Int := if exponent = 0 then -1074 else (exponent : Int) - 1075
  if m = 0 then ⟨[], 0⟩
  else
    let below := if fraction = 0 ∧ 1 < exponent then 1 else 2
    let interval : Interval := {
      low := Ratio.ofBinary (4 * m - below) (q - 2)
      middle := Ratio.ofBinary (4 * m) (q - 2)
      high := Ratio.ofBinary (4 * m + 2) (q - 2)
      closed := m % 2 == 0 }
    search interval (pointOf interval.middle) 17 1

end Shortest

/-- Is the sign bit of a double set? -/
def isNegative (bits : UInt64) : Bool :=
  Nat.pow 2 63 ≤ bits.toNat

/-- A decimal without an exponent: at least one digit on either side of the point. -/
def positional (s : Shortest) : List Char :=
  let n : Int := s.digits.length
  if s.digits = [] then ['0', '.', '0']
  else if s.point ≤ 0 then '0' :: '.' :: (List.replicate (-s.point).toNat '0' ++ s.digits)
  else if n ≤ s.point then s.digits ++ List.replicate (s.point - n).toNat '0' ++ ['.', '0']
  else s.digits.take s.point.toNat ++ '.' :: s.digits.drop s.point.toNat

/-- A decimal with an exponent: one digit before the point, and a sign before the exponent. -/
def scientific (s : Shortest) : List Char :=
  let e := s.point - 1
  let mantissa := match s.digits with
    | [] => ['0']
    | [d] => [d]
    | d :: ds => d :: '.' :: ds
  mantissa ++ 'e' :: (if e < 0 then '-' else '+') :: digits e.natAbs

/-- Puts a minus sign in front if the sign bit is set. -/
def signed (bits : UInt64) (cs : List Char) : List Char :=
  if isNegative bits then '-' :: cs else cs

end Streamkeeper.Decimal
