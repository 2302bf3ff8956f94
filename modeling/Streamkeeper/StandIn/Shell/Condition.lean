import Streamkeeper.Host.Files
import Streamkeeper.StandIn.Shell.Characters

/-!
Conditions about texts, numbers and files.

What a word means depends on the words after it: an operator between two words is read as one, and an
operator for one word stands for itself when no operand can follow.  Up to four words have rules of
their own.
-/

namespace Streamkeeper.StandIn.Shell.Condition

open Host (FileSystem Place)

/-- The units of a condition. -/
inductive Unit where
  | finish
  | operand
  | unary
  | binary
  | negation
  | conjunction
  | disjunction
  | opening
  | closing
deriving Repr, DecidableEq

/-- The operators for one word. -/
def unaryLetters : List Char :=
  ['r', 'w', 'x', 'e', 'f', 'd', 'c', 'b', 'p', 'u', 'g', 'k', 's', 't', 'z', 'n', 'h', 'O', 'G', 'L', 'S']

/-- The operators between two words. -/
def binaryWords : List String :=
  ["=", "!=", "<", ">", "-eq", "-ne", "-ge", "-gt", "-le", "-lt", "-nt", "-ot", "-ef"]

/-- The unit that a word is when nothing else decides. -/
def operator? (w : List Char) : Option Unit :=
  match w with
  | ['!'] => some .negation
  | ['-', 'a'] => some .conjunction
  | ['-', 'o'] => some .disjunction
  | ['('] => some .opening
  | [')'] => some .closing
  | ['-', c] => if unaryLetters.contains c then some .unary else none
  | _ => if binaryWords.contains (toName w) then some .binary else none

/-- The unit at the beginning of words. -/
def unitOf (ws : List (List Char)) : Unit :=
  match ws with
  | [] => .finish
  | w :: rest =>
    match operator? w with
    | some .unary =>
      let standsForItself : Bool := match rest with
        | [] => true
        | [_] => false
        | x :: _ => operator? x == some .binary
      if standsForItself then .operand else .unary
    | some .opening => if rest.isEmpty then .operand else .opening
    | some u => u
    | none => .operand

/-- The words after the first one. -/
def next (ws : List (List Char)) : List (List Char) :=
  ws.tail

/-- What is wrong with a condition. -/
inductive Fault where
  | notANumber (w : List Char)
  | argumentExpected (w : List Char)
  | unexpectedOperator (w : List Char)
  | closingExpected
deriving Repr, DecidableEq

namespace Fault

/-- The words of the language. -/
def message : Fault → String
  | .notANumber w => s!"Illegal number: {toName w}"
  | .argumentExpected w => s!"{toName w}: argument expected"
  | .unexpectedOperator w =>
    if w.isEmpty then "unexpected operator" else s!"{toName w}: unexpected operator"
  | .closingExpected => "closing paren expected"

/-- The words of the tools. -/
def toolMessage : Fault → String
  | .notANumber w => s!"invalid integer '{toName w}'"
  | .argumentExpected w => s!"missing argument after '{toName w}'"
  | .unexpectedOperator w => s!"extra argument '{toName w}'"
  | .closingExpected => "')' expected"

end Fault

/-- Numbers have 64 bits, one of them for the sign. -/
def numberBound : Int := 9223372036854775808

/-- A number, or why there is none. -/
def number (w : List Char) : Except Fault Int :=
  match (integer? w).filter fun n => -numberBound ≤ n ∧ n < numberBound with
  | some n => .ok n
  | none => .error (.notANumber w)

/-- The truth about one word. -/
def unary (fs : FileSystem) (o : List Char) (w : List Char) : Except Fault Bool :=
  let node := fs.stat (toName w)
  let isThere : Bool := node.isOk
  match o with
  | ['-', 'n'] => .ok (!w.isEmpty)
  | ['-', 'z'] => .ok w.isEmpty
  | ['-', 't'] => (number w).map fun _ => false
  | ['-', 'd'] => .ok (node matches .ok .directory)
  | ['-', 'f'] => .ok (node matches .ok (.file _ _) | .ok (.tool _))
  | ['-', 'S'] => .ok (node matches .ok .socket)
  | ['-', 'c'] => .ok (node matches .ok .zeros | .ok .sink | .ok .full)
  | ['-', 's'] =>
    .ok (match node with
      | .ok (.file content _) => !content.isEmpty
      | .ok .directory => true
      | .ok (.tool _) => true
      | _ => false)
  | ['-', 'x'] => .ok (node matches .ok .directory | .ok (.tool _) | .ok (.file _ true))
  | ['-', 'h'] => .ok (fs.locate false (toName w) matches .ok (.taken _ (.link _)))
  | ['-', 'L'] => .ok (fs.locate false (toName w) matches .ok (.taken _ (.link _)))
  | ['-', c] => .ok (isThere && ['e', 'r', 'w', 'O', 'G'].contains c)
  | _ => .ok false

/-- The truth about two words. -/
def binary (fs : FileSystem) (a o b : List Char) : Except Fault Bool :=
  let compare (f : Int → Int → Bool) : Except Fault Bool := do
    return f (← number a) (← number b)
  let place? (w : List Char) : Option Place := match fs.locate true (toName w) with
    | .ok (.taken place _) => some place
    | _ => none
  match toName o with
  | "=" => .ok (a == b)
  | "!=" => .ok (a != b)
  | "<" => .ok (decide (a < b))
  | ">" => .ok (decide (b < a))
  | "-eq" => compare (· == ·)
  | "-ne" => compare (· != ·)
  | "-lt" => compare fun m n => decide (m < n)
  | "-le" => compare fun m n => decide (m ≤ n)
  | "-gt" => compare fun m n => decide (n < m)
  | "-ge" => compare fun m n => decide (n ≤ m)
  | "-ef" => .ok ((place? a).isSome && place? a == place? b)
  | _ => .ok false

/-- A truth, and the words from the last one that it took on. -/
abbrev Result := Except Fault (Bool × List (List Char))

mutual

/-- Conditions of which one is enough.  `u` is the unit at the beginning of the words. -/
def disjunction (fs : FileSystem) : (fuel : Nat) → Unit → List (List Char) → Result
  | 0, _, ws => .ok (false, ws)
  | fuel + 1, u, ws => do
    let (t, ws) ← conjunction fs fuel u ws
    if unitOf (next ws) = .disjunction then
      let ws := next (next ws)
      let (t', ws) ← disjunction fs fuel (unitOf ws) ws
      return (t || t', ws)
    else return (t, ws)

/-- Conditions that all have to hold. -/
def conjunction (fs : FileSystem) : (fuel : Nat) → Unit → List (List Char) → Result
  | 0, _, ws => .ok (false, ws)
  | fuel + 1, u, ws => do
    let (t, ws) ← negation fs fuel u ws
    if unitOf (next ws) = .conjunction then
      let ws := next (next ws)
      let (t', ws) ← conjunction fs fuel (unitOf ws) ws
      return (t && t', ws)
    else return (t, ws)

/-- A condition that may be denied. -/
def negation (fs : FileSystem) : (fuel : Nat) → Unit → List (List Char) → Result
  | 0, _, ws => .ok (false, ws)
  | fuel + 1, u, ws =>
    if u = .negation then do
      let (t, ws) ← negation fs fuel (unitOf (next ws))
        (if (next ws).isEmpty then ws else next ws)
      return (!t, ws)
    else primary fs fuel u ws

/-- A single condition. -/
def primary (fs : FileSystem) : (fuel : Nat) → Unit → List (List Char) → Result
  | 0, _, ws => .ok (false, ws)
  | fuel + 1, u, ws =>
    match u with
    | .finish => .ok (false, ws)
    | .opening => do
      let inner := next ws
      if unitOf inner = .closing then return (false, inner)
      else
        let (t, ws) ← disjunction fs fuel (unitOf inner) inner
        if unitOf (next ws) = .closing then return (t, next ws)
        else .error .closingExpected
    | _ =>
      match u, ws with
      | .unary, o :: w :: rest => return (← unary fs o w, w :: rest)
      | _, a :: rest =>
        if unitOf rest = .binary then
          match rest with
          | o :: b :: rest => return (← binary fs a o b, b :: rest)
          | _ => .error (.argumentExpected (rest.headD []))
        else return (!a.isEmpty, ws)
      | _, [] => return (false, ws)

end

/-- The truth of a whole condition. -/
def general (fs : FileSystem) (u : Unit) (ws : List (List Char)) : Except Fault Bool := do
  let (t, ws) ← disjunction fs (4 * ws.length + 4) u ws
  match ws with
  | w :: _ :: _ => .error (.unexpectedOperator w)
  | _ => return t

/-- The truth of a condition, with the rules for few words. -/
def holds (fs : FileSystem) : (fuel : Nat) → List (List Char) → Except Fault Bool
  | 0, _ => .ok false
  | fuel + 1, ws =>
    let isBinary : Bool := match ws with
      | [_, o, _] => operator? o == some .binary
      | _ => false
    let few := ws.length = 3 ∨ ws.length = 4
    match ws with
    | [] => .ok false
    | w :: rest =>
      if isBinary then general fs .operand ws
      else if few ∧ w = ['('] ∧ rest.getLast? = some [')'] then
        general fs (unitOf rest.dropLast) rest.dropLast
      else if few ∧ w = ['!'] then (holds fs fuel rest).map (!·)
      else general fs (unitOf ws) ws

end Streamkeeper.StandIn.Shell.Condition
