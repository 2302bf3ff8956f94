import Streamkeeper.StandIn.Shell.Builtin.Flags
import Streamkeeper.StandIn.Shell.Condition
import Streamkeeper.StandIn.Shell.Formatting

/-!
Builtins that leave loops, functions and scripts, and builtins that print and compare.
-/

namespace Streamkeeper.StandIn.Shell.Builtin

/-- Sets the outcome and stops. -/
def stopWith (status : Nat) (stop : Stop) : Run Nat := do
  modify fun s => { s with status := status }
  throw stop

/-- Ends the script. -/
def exit (args : List (List Char)) : Run Nat := do
  let s ← get
  let status ← match args with
    | w :: _ => number w
    | [] => pure (s.kept.getD s.status)
  stopWith status (.leave true)

/-- Leaves the running function. -/
def comeBack (args : List (List Char)) : Run Nat := do
  let s ← get
  let status ← match args with
    | w :: _ => number w
    | [] => pure s.status
  stopWith status .back

/-- The number of loops that are meant: no more than there are. -/
def levels (args : List (List Char)) : Run Nat := do
  match args with
  | w :: _ =>
    let n ← number w
    if n = 0 then Run.fail s!"Illegal number: {toName w}" else return min n (← get).loops
  | [] => return min 1 (← get).loops

/-- Leaves loops. -/
def breakOff (args : List (List Char)) : Run Nat := do
  let n ← levels args
  if n = 0 then return 0 else stopWith 0 (.breakOff n)

/-- Goes on with the next round of a loop. -/
def again (args : List (List Char)) : Run Nat := do
  let n ← levels args
  if n = 0 then return 0 else stopWith 0 (.again n)

/-- Succeeds. -/
def succeed (_ : List (List Char)) : Run Nat :=
  return 0

/-- Fails. -/
def failAlways (_ : List (List Char)) : Run Nat :=
  return 1

/-- Prints its arguments. -/
def echo (args : List (List Char)) : Run Nat := do
  Run.print (.ofChars (Shell.echo args))
  return 0

/-- Prints arguments in a format. -/
def printf (args : List (List Char)) : Run Nat := do
  let (_, args) ← readFlags [] args
  match args with
  | [] => Run.fail "usage: printf format [arg ...]"
  | format :: args =>
    let p := printFormatted .language format args
    Run.print (.ofChars p.text)
    match p.mistaken, p.complaints.reverse with
    | true, last :: before =>
      for c in before.reverse do modify (·.complain c.message)
      Run.fail last.message
    | _, _ =>
      for c in p.complaints do modify (·.complain c.message)
      return if p.complaints.isEmpty then 0 else 1

/-- Tells whether a condition holds. -/
def test (args : List (List Char)) : Run Nat := do
  match Condition.holds (← get).files (args.length + 1) args with
  | .ok t => return if t then 0 else 1
  | .error fault => Run.fail fault.message

/-- Tells whether a condition between brackets holds. -/
def bracket (args : List (List Char)) : Run Nat :=
  if args.getLast? = some [']'] then test args.dropLast else Run.fail "missing ]"

end Streamkeeper.StandIn.Shell.Builtin
