/-!
Tables: association lists in which the first entry of a key counts.

`set` keeps the place of a key that is there and puts a new key at the end; `remove` takes every
entry of a key away.
-/

namespace Streamkeeper

/-- An association list. -/
abbrev Table (κ α : Type) := List (κ × α)

namespace Table

variable {κ α : Type} [DecidableEq κ]

/-- The value of a key. -/
def get? (t : Table κ α) (key : κ) : Option α :=
  match t with
  | [] => none
  | (k, a) :: rest => if k = key then some a else get? rest key

/-- Gives a key a value. -/
def set (t : Table κ α) (key : κ) (value : α) : Table κ α :=
  match t with
  | [] => [(key, value)]
  | (k, a) :: rest => if k = key then (key, value) :: rest else (k, a) :: set rest key value

/-- Takes a key away. -/
def remove (t : Table κ α) (key : κ) : Table κ α :=
  t.filter fun e => e.1 ≠ key

/-- Is the key there? -/
def has (t : Table κ α) (key : κ) : Bool :=
  (get? t key).isSome

/-- The keys, in their order. -/
def keys (t : Table κ α) : List κ :=
  t.map (·.1)

/-- The values, in the order of their keys. -/
def values (t : Table κ α) : List α :=
  t.map (·.2)

end Table

end Streamkeeper
