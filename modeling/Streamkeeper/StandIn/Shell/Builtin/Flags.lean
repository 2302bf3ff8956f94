import Streamkeeper.StandIn.Shell.State

/-!
Flags and numbers of builtins.
-/

namespace Streamkeeper.StandIn.Shell

/-- A letter that was given as a flag, with its value. -/
structure Flag where
  letter : Char
  value : List Char
deriving Repr, DecidableEq

namespace Builtin

/-- The flags of one word; `known` says which letters there are and whether they take a value, which
may be the next word. -/
def flagsOf (known : List (Char × Bool)) : List Char → List (List Char) →
    Run (List Flag × List (List Char))
  | [], args => return ([], args)
  | c :: cs, args =>
    match known.lookup c with
    | none => Run.fail s!"Illegal option -{toName [c]}"
    | some false => do
      let (fs, args) ← flagsOf known cs args
      return (⟨c, []⟩ :: fs, args)
    | some true =>
      if !cs.isEmpty then return ([⟨c, cs⟩], args)
      else
        match args with
        | value :: args => return ([⟨c, value⟩], args)
        | [] => Run.fail s!"No arg for -{toName [c]} option"

/-- The flags before the other words. -/
def flags (known : List (Char × Bool)) : (fuel : Nat) → List (List Char) →
    Run (List Flag × List (List Char))
  | 0, args => return ([], args)
  | fuel + 1, args =>
    match args with
    | ['-', '-'] :: args => return ([], args)
    | ('-' :: c :: cs) :: args => do
      let (fs, args) ← flagsOf known (c :: cs) args
      let (more, args) ← flags known fuel args
      return (fs ++ more, args)
    | _ => return ([], args)

/-- The flags of a call. -/
def readFlags (known : List (Char × Bool)) (args : List (List Char)) :
    Run (List Flag × List (List Char)) :=
  flags known (args.length + 1) args

/-- The greatest number that builtins take. -/
def greatest : Int := Nat.pow 2 31 - 1

/-- A number that is not below zero. -/
def number (w : List Char) : Run Nat :=
  match integer? w with
  | some n =>
    if 0 ≤ n ∧ n ≤ greatest then return n.toNat else Run.fail s!"Illegal number: {toName w}"
  | none => Run.fail s!"Illegal number: {toName w}"

/-- A text between quotes that give it back. -/
def quoted : (fuel : Nat) → List Char → List Char
  | 0, _ => []
  | fuel + 1, cs =>
    let plain := cs.takeWhile (· != '\'')
    let rest := cs.drop plain.length
    let marks := rest.takeWhile (· == '\'')
    let rest := rest.drop marks.length
    let front := '\'' :: plain ++ ['\'']
    if marks.isEmpty then front
    else
      front ++ ('"' :: marks ++ ['"']) ++ (if rest.isEmpty then [] else quoted fuel rest)

/-- A text between quotes. -/
def quote (cs : List Char) : List Char :=
  quoted (cs.length + 1) cs

/-- Writes a line to standard output. -/
def printLine (cs : List Char) : Run Unit :=
  Run.print (.ofChars (cs ++ ['\n']))

end Builtin

end Streamkeeper.StandIn.Shell
