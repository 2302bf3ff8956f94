/-!
JSON values.

An object keeps its members in the order in which they were written or built, repeated keys
included; `Json.Canonical` gives the order in which a value without declared fields is written.
A number is an integer, or the bits of a double.
-/

namespace Streamkeeper

/-- A JSON number. -/
inductive Number where
  | int (n : Int)
  | real (bits : UInt64)
deriving Repr, DecidableEq

/-- A JSON value. -/
inductive Json where
  | null
  | bool (b : Bool)
  | number (n : Number)
  | string (s : String)
  | array (items : List Json)
  | object (members : List (String × Json))
deriving Repr, Inhabited

namespace Json

/-- A natural number as a value. -/
def nat (n : Nat) : Json :=
  .number (.int n)

/-- The natural number below 2^64 that a value is. -/
def asNat? : Json → Option Nat
  | .number (.int n) => if 0 ≤ n ∧ n < Nat.pow 2 64 then some n.toNat else none
  | _ => none

/-- The members of an object without a value are left out. -/
def field? (key : String) (value : Option Json) : List (String × Json) :=
  match value with
  | some v => [(key, v)]
  | none => []

@[simp] theorem field?_none (key : String) : field? key none = [] := rfl

@[simp] theorem field?_some (key : String) (v : Json) : field? key (some v) = [(key, v)] := rfl

end Json

end Streamkeeper
