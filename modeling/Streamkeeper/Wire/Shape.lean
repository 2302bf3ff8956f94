import Streamkeeper.Json.Reader
import Streamkeeper.Json.Canonical
import Streamkeeper.Status

/-!
Values of an expected shape.

A record is read from an object or from an array of its fields in their order.  An object may hold
its fields in any order and other members besides; a field that is given twice, has a value of the
wrong shape or is missing is a mismatch, and of several the one that comes first in the object is
reported, a missing field last.
-/

namespace Streamkeeper.Wire

open Json (Mismatch)

/-- A field of a record and the check of its value. -/
structure Field where
  name : String
  check : Json → Except Mismatch Unit

/-- The value of a member. -/
def member? (name : String) : List (String × Json) → Option Json
  | [] => none
  | (k, v) :: rest => if k = name then some v else member? name rest

/-- Checks members in their order: a known field may come once and must have the right shape. -/
def checkMembers (fields : List Field) (seen : List String) :
    List (String × Json) → Except Mismatch Unit
  | [] => .ok ()
  | (k, v) :: rest =>
    match fields.find? fun f => f.name == k with
    | none => checkMembers fields seen rest
    | some f =>
      if k ∈ seen then .error (.duplicateField k)
      else do
        f.check v
        checkMembers fields (k :: seen) rest

/-- Reads a field that has to be there. -/
def required {α : Type} (read : Json → Except Mismatch α) (name : String)
    (ms : List (String × Json)) : Except Mismatch α :=
  match member? name ms with
  | some v => read v
  | none => .error (.missingField name)

/-- A field of a record of `read`'s type. -/
def field {α : Type} (name : String) (read : Json → Except Mismatch α) : Field :=
  ⟨name, fun v => (read v).map fun _ => ()⟩

/-- What a record in the form of an array lacks when it has only `count` elements. -/
def tooShort {α : Type} (count : Nat) (record : String) : Except Mismatch α :=
  .error (.invalidLength count record)

/-- Elements that a record in the form of an array has no field for. -/
def noMore (taken : Nat) (rest : List Json) : Except Mismatch Unit :=
  if rest.isEmpty then .ok ()
  else
    let expected := if taken = 1 then "1 element in sequence" else s!"{taken} elements in sequence"
    .error (.invalidLength (taken + rest.length) expected)

/-- A string. -/
def string (v : Json) : Except Mismatch String :=
  match v with
  | .string s => .ok s
  | v => .error (.invalidType v.found "a string")

/-- A natural number below a bound. -/
def natural (bound : Nat) (kind : String) (v : Json) : Except Mismatch Nat :=
  match v with
  | .number (.int n) =>
    if 0 ≤ n ∧ n.toNat < bound then .ok n.toNat else .error (.invalidValue v.found kind)
  | v => .error (.invalidType v.found kind)

/-- A count. -/
def count (v : Json) : Except Mismatch Nat :=
  natural (Nat.pow 2 64) "usize" v

/-- A number of 16 bits. -/
def word16 (v : Json) : Except Mismatch UInt16 :=
  (natural (Nat.pow 2 16) "u16" v).map Nat.toUInt16

/-- A number of 64 bits. -/
def word64 (v : Json) : Except Mismatch UInt64 :=
  (natural (Nat.pow 2 64) "u64" v).map Nat.toUInt64

/-- An array whose elements have a shape. -/
def listOf {α : Type} (read : Json → Except Mismatch α) (v : Json) : Except Mismatch (List α) :=
  match v with
  | .array items => items.mapM read
  | v => .error (.invalidType v.found "a sequence")

/-- A value without content. -/
def unit (v : Json) : Except Mismatch Unit :=
  match v with
  | .null => .ok ()
  | .object [] => .ok ()
  | v => .error (.invalidType v.found "unit")

/-- One of several names. -/
def oneOf {α : Type} (ofName? : String → Option α) (known : List String) (name : String) :
    Except Mismatch α :=
  match ofName? name with
  | some x => .ok x
  | none => .error (.unknownVariant name known)

/-- The status code with a name. -/
def statusName (name : String) : Except Mismatch StatusCode :=
  oneOf StatusCode.ofName? (StatusCode.all.map StatusCode.name) name

/-- A status code: its name, or an object that gives the name no content. -/
def statusCode (v : Json) : Except Mismatch StatusCode :=
  match v with
  | .string s => statusName s
  | .object [(name, content)] => do
    let code ← statusName name
    unit content
    .ok code
  | .object _ => .error (.invalidValue .map "map with a single key")
  | v => .error (.invalidType v.found "string or map")

end Streamkeeper.Wire
