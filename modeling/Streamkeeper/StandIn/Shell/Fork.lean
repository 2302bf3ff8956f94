import Streamkeeper.StandIn.Shell.State

/-!
Processes of a script: nested scripts and commands that run beside each other.

A new process has a copy of the state.  What the script would do at signals does not pass to it, except
that a signal which is ignored stays so.
-/

namespace Streamkeeper.StandIn.Shell

/-- The state with which a copy of the script starts. -/
def State.copied (s : State) : State :=
  { s with traps := s.traps.filter fun t => t.2.isEmpty, jobs := [], kept := none }

/-- The signals whose effect on a process goes without saying. -/
def quietSignals : List Signal :=
  [Signal.interrupt, Signal.brokenPipe]

namespace Run

/-- Says by which signals processes ended. -/
def announce (es : List Ending) : Run Unit := do
  for e in es do
    match e with
    | .signal n =>
      if !quietSignals.contains n then
        modify (·.writeAnyway 2 (.ofString (Signal.text n ++ "\n")))
    | .status _ => pure ()

/-- Waits for processes that belong together, and gives the outcome of the last one. -/
def awaitAll (ps : List ProcessId) : Run Nat := do
  let es ← await ps
  announce es
  return ((es.getLast?.map Ending.code).getD 0)

/-- Starts a command in a copy of the script. -/
def startCommand (m : Mode) (rs : List Rewiring) (c : Command) (descriptors : Table Nat Nat)
    (ignored : List Signal) : Run ProcessId := do
  start (.command m rs c) (← get).copied descriptors ignored

/-- Starts a program. -/
def startProgram (c : Call) : Run ProcessId := do
  let s ← get
  start (.program c) s s.descriptors []

/-- Makes a pipe, with its ends open: the one to read from and the one to write to. -/
def openPipe : Run (Nat × Nat) := do
  let s ← get
  let (n, world) := s.world.openPipe
  let (reading, world) := world.openFile (.readEnd n)
  let (writing, world) := world.openFile (.writeEnd n)
  set { s with world := world }
  return (reading, writing)

/-- A descriptor that scripts cannot name. -/
def hidden (id : Nat) : Nat :=
  1000 + id

/-- Changes the descriptors of the process. -/
def withDescriptors (f : Table Nat Nat → Table Nat Nat) : Run Unit :=
  modify fun s => s.withDescriptors (f s.descriptors)

/-- Runs a nested script and gives what it wrote, without NUL characters. -/
def substitute (c : Command) : Run (List Char) := do
  let (reading, writing) ← openPipe
  let fd := hidden reading
  let before := (← get).descriptors
  withDescriptors (·.set fd reading)
  let p ← startCommand ⟨false, true⟩ [] c (before.set 1 writing) []
  let r ← readUntil fd (fun _ => false) pieceLimit []
  withDescriptors (·.remove fd)
  let code ← awaitAll [p]
  modify fun s => { s with nestedStatus := code }
  match r with
  | .ok supply => return ofOctets (supply.octets.filter (· != 0))
  | .error _ => return []

end Run

end Streamkeeper.StandIn.Shell
