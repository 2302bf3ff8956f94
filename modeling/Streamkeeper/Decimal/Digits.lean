/-!
Decimal digits: writing a natural number, and reading a run of digits.
-/

namespace Streamkeeper.Decimal

/-- The digits of a number, without leading zeros. -/
def digits (n : Nat) : List Char :=
  Nat.toDigits 10 n

/-- The number that a run of decimal digits denotes, `0` for the empty run. -/
def value (cs : List Char) : Nat :=
  Nat.ofDigitChars 10 cs 0

/-- A number with one digit more, in 64 bits.  A step that leaves their range ends at its bound. -/
def push (n : Int64) (digit : Char) : Int64 :=
  let tens := Int64.ofIntClamp (n.toInt * 10)
  Int64.ofIntClamp (tens.toInt + (digit.toNat - '0'.toNat : Nat))

/-- The number that a run of decimal digits denotes, in 64 bits, or the largest one. -/
def saturated (cs : List Char) : Int64 :=
  cs.foldl push 0

/-- The longest beginning made of decimal digits, and what follows it. -/
def split (cs : List Char) : List Char × List Char :=
  (cs.takeWhile Char.isDigit, cs.dropWhile Char.isDigit)

@[simp] theorem value_digits (n : Nat) : value (digits n) = n :=
  Nat.ofDigitChars_toDigits (by decide) (by decide)

theorem digits_ne_nil (n : Nat) : digits n ≠ [] :=
  Nat.toDigits_ne_nil

theorem isDigit_of_mem_digits {n : Nat} {c : Char} (h : c ∈ digits n) : c.isDigit = true :=
  Nat.isDigit_of_mem_toDigits (by decide) (by decide) h

/-- The text of a number. -/
def text (n : Nat) : String :=
  String.ofList (digits n)

/-- The text of an integer: a minus sign when it is negative, then its digits. -/
def intText (n : Int) : String :=
  String.ofList (if n < 0 then '-' :: digits n.natAbs else digits n.natAbs)

/-- The number written by a string of digits and nothing else, below a bound.  One plus sign may
stand in front. -/
def read? (bound : Nat) (s : String) : Option Nat :=
  let cs := match s.toList with
    | '+' :: cs => cs
    | cs => cs
  if cs.isEmpty || !cs.all Char.isDigit || bound ≤ value cs then none else some (value cs)

end Streamkeeper.Decimal
