import Streamkeeper.StandIn.Shell.State

/-!
Integer expressions.

Numbers have 64 bits and wrap around; division goes toward zero.  A name stands for the number that is
its value.  What an operator does not need is read, but neither looked up nor assigned.
-/

namespace Streamkeeper.StandIn.Shell.Arithmetic

/-- How many numbers there are: those of 64 bits. -/
def words : Nat := Nat.pow 2 64

/-- The least number. -/
def least : Int := -(words / 2 : Nat)

/-- The greatest number. -/
def greatest : Int := (words / 2 : Nat) - 1

/-- A number cut to 64 bits. -/
def wrap (n : Int) : Int :=
  n.bmod words

/-- The number next to `n` that has 64 bits. -/
def clamp (n : Int) : Int :=
  max least (min greatest n)

/-- A unit of an expression. -/
inductive Unit where
  | number (n : Int)
  | name (s : String)
  | symbol (s : String)
deriving Repr, DecidableEq

/-- The digits of a number in a base, at the beginning of a text. -/
def digitsIn (base : Nat) (cs : List Char) : List Char :=
  let isDigit (c : Char) : Bool := match base with
    | 8 => '0' ≤ c && c ≤ '7'
    | 16 => c.isDigit || ('a' ≤ c.toLower && c.toLower ≤ 'f')
    | _ => c.isDigit
  cs.takeWhile isDigit

/-- The number that digits in a base denote. -/
def valueOf (base : Nat) (digits : List Char) : Nat :=
  digits.foldl (fun n c =>
    n * base + (if c.isDigit then c.toNat - '0'.toNat else c.toLower.toNat - 'a'.toNat + 10)) 0

/-- A number without a sign at the beginning of a text, and what follows it. -/
def literal (cs : List Char) : Nat × List Char :=
  let read (base : Nat) (cs : List Char) : Nat × List Char :=
    let ds := digitsIn base cs
    (valueOf base ds, cs.drop ds.length)
  match cs with
  | '0' :: x :: d :: rest =>
    if (x = 'x' ∨ x = 'X') ∧ digitsIn 16 [d] ≠ [] then read 16 (d :: rest) else read 8 cs
  | '0' :: _ => read 8 cs
  | _ => read 10 cs

/-- The number that a text is; blanks around it do not count, and the empty text is 0. -/
def ofText? (cs : List Char) : Option Int :=
  let digits (sign : Int) (cs : List Char) : Option Int :=
    if (cs.head?.map Char.isDigit).getD false then
      let (n, rest) := literal cs
      if rest.all isSpace then some (clamp (sign * n)) else none
    else none
  match cs.dropWhile isSpace with
  | [] => some 0
  | '-' :: rest => digits (-1) rest
  | '+' :: rest => digits 1 rest
  | rest => digits 1 rest

/-- The symbols, longer ones first. -/
def symbols : List String :=
  ["<<=", ">>=", "<<", ">>", "<=", ">=", "==", "!=", "&&", "||", "+=", "-=", "*=", "/=", "%=", "&=",
    "|=", "^=", "+", "-", "*", "/", "%", "<", ">", "=", "!", "&", "|", "^", "~", "?", ":", "(", ")"]

/-- The units of an expression.  A character that begins none is a unit of its own, and the last one. -/
def scan : (fuel : Nat) → List Char → List Unit
  | 0, _ => []
  | _, [] => []
  | fuel + 1, c :: cs =>
    if c = ' ' ∨ c = '\t' ∨ c = '\n' then scan fuel cs
    else if c.isDigit then
      let (n, rest) := literal (c :: cs)
      .number (clamp n) :: scan fuel rest
    else if startsName c then
      .name (String.ofList ((c :: cs).takeWhile isNameChar)) ::
        scan fuel ((c :: cs).dropWhile isNameChar)
    else
      match symbols.findSome? fun o => (o.toList.isPrefixOf? (c :: cs)).map fun r => (o, r) with
      | some (o, rest) => .symbol o :: scan fuel rest
      | none => [.symbol ""]

/-- A truth value as a number. -/
def truth (b : Bool) : Int :=
  if b then 1 else 0

/-- How tightly an operator between two operands binds; less is tighter. -/
def precedence : List (String × Nat) :=
  [("*", 0), ("/", 0), ("%", 0), ("+", 1), ("-", 1), ("<<", 2), (">>", 2), ("<", 3), ("<=", 3),
    (">", 3), (">=", 3), ("==", 4), ("!=", 4), ("&", 5), ("^", 6), ("|", 7)]

/-- Works out an operator; none if that divides by zero. -/
def compute? (o : String) (a b : Int) : Option Int :=
  let bits (f : UInt64 → UInt64 → UInt64) : Int :=
    wrap (f (Int64.ofInt a).toUInt64 (Int64.ofInt b).toUInt64).toNat
  let shift : Nat := (b % 64).toNat
  match o with
  | "|" => some (bits (· ||| ·))
  | "^" => some (bits (· ^^^ ·))
  | "&" => some (bits (· &&& ·))
  | "==" => some (truth (a == b))
  | "!=" => some (truth (a != b))
  | "<=" => some (truth (a ≤ b))
  | ">=" => some (truth (b ≤ a))
  | "<" => some (truth (a < b))
  | ">" => some (truth (b < a))
  | "<<" => some (wrap (a * Nat.pow 2 shift))
  | ">>" => some (Int.fdiv a (Nat.pow 2 shift))
  | "+" => some (wrap (a + b))
  | "-" => some (wrap (a - b))
  | "*" => some (wrap (a * b))
  | "/" => if b = 0 then none else some (wrap (Int.tdiv a b))
  | "%" => if b = 0 then none else some (Int.tmod a b)
  | _ => none

/-- A value, and the units after its expression. -/
abbrev Result := Int × List Unit

/-- Reports a mistake in an expression. -/
def wrong {α : Type} (source : List Char) (message : String) : Run α :=
  Run.fail s!"arithmetic expression: {message}: \"{toName source}\""

/-- Works out an operator, or reports why that cannot be done. -/
def compute (source : List Char) (o : String) (a b : Int) : Run Int :=
  match compute? o a b with
  | some n => return n
  | none => wrong source "division by zero"

/-- The number that a variable holds. -/
def lookUp (name : String) : Run Int := do
  let value := ((← get).value? name).getD []
  match ofText? value with
  | some n => return n
  | none => Run.fail s!"Illegal number: {toName value}"

/-- The operator that an assignment begins with, none if it only assigns. -/
def assigner? : List Unit → Option (Option String)
  | .symbol "=" :: _ => some none
  | .symbol o :: _ =>
    let front := o.toList.dropLast
    if o.toList.getLast? = some '=' ∧ !(["==", "!=", "<=", ">="].contains o) then
      some (some (String.ofList front))
    else none
  | _ => none

mutual

/-- An assignment, or a choice. -/
def assignment (source : List Char) : (fuel : Nat) → (idle : Bool) → List Unit → Run Result
  | 0, _, _ => wrong source "expecting primary"
  | fuel + 1, idle, us =>
    match us with
    | .name x :: rest =>
      match assigner? rest with
      | some o => do
        let (v, rest) ← assignment source fuel idle rest.tail
        if idle then return (v, rest)
        else
          let v ← match o with
            | some o => do compute source o (← lookUp x) v
            | none => pure v
          Run.assign x (toString v).toList false
          return (v, rest)
      | none => choice source fuel idle us
    | _ => choice source fuel idle us

/-- A choice between two values, or a single one. -/
def choice (source : List Char) : (fuel : Nat) → (idle : Bool) → List Unit → Run Result
  | 0, _, _ => wrong source "expecting primary"
  | fuel + 1, idle, us => do
    let (a, rest) ← disjunction source fuel idle us
    match rest with
    | .symbol "?" :: rest =>
      let (b, rest) ← assignment source fuel (idle || a == 0) rest
      match rest with
      | .symbol ":" :: rest =>
        let (c, rest) ← choice source fuel (idle || a != 0) rest
        return (if a = 0 then c else b, rest)
      | _ => wrong source "expecting ':'"
    | _ => return (a, rest)

/-- Conditions of which one is enough. -/
def disjunction (source : List Char) : (fuel : Nat) → (idle : Bool) → List Unit → Run Result
  | 0, _, _ => wrong source "expecting primary"
  | fuel + 1, idle, us => do
    let (a, rest) ← conjunction source fuel idle us
    match rest with
    | .symbol "||" :: rest =>
      let (b, rest) ← disjunction source fuel (idle || a != 0) rest
      return (truth (a != 0 || b != 0), rest)
    | _ => return (a, rest)

/-- Conditions that all have to hold. -/
def conjunction (source : List Char) : (fuel : Nat) → (idle : Bool) → List Unit → Run Result
  | 0, _, _ => wrong source "expecting primary"
  | fuel + 1, idle, us => do
    let (a, rest) ← operand source fuel idle us
    let (a, rest) ← operation source fuel idle 8 a rest
    match rest with
    | .symbol "&&" :: rest =>
      let (b, rest) ← conjunction source fuel (idle || a == 0) rest
      return (truth (a != 0 && b != 0), rest)
    | _ => return (a, rest)

/-- What follows a left operand: operators that bind more tightly than `limit`, with operands. -/
def operation (source : List Char) :
    (fuel : Nat) → (idle : Bool) → (limit : Nat) → Int → List Unit → Run Result
  | 0, _, _, _, _ => wrong source "expecting primary"
  | fuel + 1, idle, limit, a, us =>
    match us with
    | .symbol o :: rest =>
      match (precedence.lookup o).filter (· < limit) with
      | some p => do
        let (b, rest) ← operand source fuel idle rest
        let (b, rest) ← operation source fuel idle p b rest
        let v ← if idle then pure b else compute source o a b
        operation source fuel idle limit v rest
      | none => return (a, us)
    | _ => return (a, us)

/-- An operand with the signs before it. -/
def operand (source : List Char) : (fuel : Nat) → (idle : Bool) → List Unit → Run Result
  | 0, _, _ => wrong source "expecting primary"
  | fuel + 1, idle, us =>
    match us with
    | .number n :: rest => return (n, rest)
    | .name x :: rest => do
      if idle then return (0, rest) else return (← lookUp x, rest)
    | .symbol "(" :: rest => do
      let (v, rest) ← assignment source fuel idle rest
      match rest with
      | .symbol ")" :: rest => return (v, rest)
      | _ => wrong source "expecting ')'"
    | .symbol "+" :: rest => operand source fuel idle rest
    | .symbol "-" :: rest => do
      let (v, rest) ← operand source fuel idle rest
      return (wrap (-v), rest)
    | .symbol "!" :: rest => do
      let (v, rest) ← operand source fuel idle rest
      return (truth (v == 0), rest)
    | .symbol "~" :: rest => do
      let (v, rest) ← operand source fuel idle rest
      return (-v - 1, rest)
    | _ => wrong source "expecting primary"

end

/-- The value of an expression. -/
def eval (source : List Char) : Run Int := do
  let us := scan (source.length + 1) source
  let (v, rest) ← assignment source (12 * us.length + 12) false us
  if rest.isEmpty then return v else wrong source "expecting EOF"

end Streamkeeper.StandIn.Shell.Arithmetic
