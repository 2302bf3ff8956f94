import Streamkeeper.Text.Blank
import Streamkeeper.Decimal.Digits

/-!
Sizes such as `1024`, `512K` or `150 GB`.

A size is a number of binary units: digits, then a unit out of nothing, `K`, `M`, `G` and `T`, in
either case and followed by any number of letters `B`.  Sizes are below 2^64; a text that denotes a
larger one is refused, never wrapped around.
-/

namespace Streamkeeper.Options

/-- Sizes and counts are below this bound. -/
def sizeBound : Nat := Nat.pow 2 64

/-- Why a text is no size. -/
inductive SizeError where
  | number (text : String)
  | unit (text : String)
  | tooLarge (text : String)
deriving Repr, DecidableEq

/-- The sentence that reports a size error. -/
def SizeError.message : SizeError → String
  | .number text => s!"invalid size '{text}'"
  | .unit text => s!"invalid size unit in '{text}'"
  | .tooLarge text => s!"size '{text}' is too large"

/-- The power of two of a unit. -/
def unitShift? (unit : List Char) : Option Nat :=
  match Text.trimEnd (· == 'B') ((Text.trim Text.isBlank unit).map Char.toUpper) with
  | [] => some 0
  | ['K'] => some 10
  | ['M'] => some 20
  | ['G'] => some 30
  | ['T'] => some 40
  | _ => none

/-- The size that a text denotes. -/
def parseSize (s : String) : Except SizeError Nat :=
  let cs := Text.trim Text.isBlank s.toList
  let text := String.ofList cs
  let (digits, unit) := Decimal.split cs
  if digits = [] ∨ sizeBound ≤ Decimal.value digits then .error (.number text)
  else
    match unitShift? unit with
    | none => .error (.unit text)
    | some shift =>
      let size := Decimal.value digits * Nat.pow 2 shift
      if size < sizeBound then .ok size else .error (.tooLarge text)

end Streamkeeper.Options
