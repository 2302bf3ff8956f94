import Streamkeeper.StandIn.Shell.Script
import Streamkeeper.StandIn.Shell.World

/-!
The state of a running script, and the steps that it takes.

A step changes the state and may stop the script: by a mistake, which some callers survive, by its end,
by a signal, or by leaving a loop or a function.  The state stays as it was at that moment.  A step may
also pause until something happens in the world, so that other processes run meanwhile; what comes
after the pause goes on with the world that it finds.
-/

namespace Streamkeeper.StandIn.Shell

open Host (FileSystem OsError Place)

/-- A variable.  It may be marked before it has a value. -/
structure Variable where
  value : Option (List Char)
  exported : Bool
  readOnly : Bool
deriving Repr, DecidableEq

/-- Processes that run beside the script. -/
structure Job where
  number : Nat
  processes : List ProcessId
  /-- Was its end waited for? -/
  waited : Bool
deriving Repr, DecidableEq

/-- Is one of the processes not at its end? -/
def Job.isRunning (j : Job) (w : World) : Bool :=
  j.processes.any w.isAlive

/-- The state of a script between two steps. -/
structure State where
  world : World
  /-- The process that runs, and the one that the script calls its own. -/
  process : ProcessId
  own : ProcessId
  /-- The working directory, and the path by which the script came there. -/
  directory : Place
  directoryPath : List Char
  /-- What the script calls itself in messages. -/
  name : String
  arguments : List (List Char)
  /-- The variables. -/
  bindings : Table String Variable
  functions : Table String Command
  aliases : Table String (List Char)
  documents : Table DocumentId Word
  /-- The programs that were found before. -/
  remembered : List String
  /-- The outcome of the last command. -/
  status : Nat
  /-- The outcome that an end without a number takes, while the script looks after a signal. -/
  kept : Option Nat
  options : List Char
  mask : Nat
  /-- The builtin that runs. -/
  builtin : Option String
  /-- The line that messages name. -/
  line : Nat
  /-- The number of functions that run. -/
  depth : Nat
  /-- The number of loops around the command. -/
  loops : Nat
  /-- What the local variables were before, for every running function. -/
  locals : List (List (String × Option Variable))
  /-- What is done at signals; nothing, if the text is empty. -/
  traps : Table Signal (List Char)
  /-- The jobs, the latest last. -/
  jobs : List Job
  lastJob : Option ProcessId
  /-- The outcome of the last nested script of the running command. -/
  nestedStatus : Nat
  /-- The argument at which the reading of options goes on, and how far it was read. -/
  optionIndex : Nat
  optionOffset : Option Nat
  /-- Did the running builtin fail to write? -/
  writeFailed : Bool
  /-- Is a command being shown? -/
  showing : Bool

/-- A program that is about to run: the path of its file and its arguments, its name first. -/
structure Call where
  path : List Char
  arguments : List (List Char)
deriving Repr, DecidableEq

/-- How a command is run: whether its failure is asked for, and whether the process ends with it. -/
structure Mode where
  tested : Bool
  last : Bool

/-- What a new process is for. -/
inductive Errand where
  /-- A command, after descriptors are changed. -/
  | command (m : Mode) (rs : List Rewiring) (c : Command)
  | program (c : Call)

/-- What a process waits for. -/
inductive Occasion where
  | time (t : Time)
  /-- The end of processes; a signal that the process looks after may come before it. -/
  | ended (ps : List ProcessId) (interruptible : Bool)
  /-- Something in a pipe, or its end. -/
  | contents (pipe : Nat)
  /-- Room in a pipe, or nobody to read it. -/
  | room (pipe : Nat)
  /-- Nobody to read a pipe. -/
  | abandoned (pipe : Nat)
  /-- Nothing that could come. -/
  | never
  /-- Nothing: a process is started, which has this state. -/
  | start (p : ProcessId) (errand : Errand) (s : State)

/-- Why a script stops. -/
inductive Stop where
  /-- A mistake, which was reported. -/
  | mistake
  /-- The end, which may have been asked for. -/
  | leave (asked : Bool)
  | killed (s : Signal)
  /-- The process goes on as another program. -/
  | become (c : Call)
  /-- Leaves loops. -/
  | breakOff (levels : Nat)
  /-- Goes on with the next round of a loop. -/
  | again (levels : Nat)
  /-- Leaves a function. -/
  | back
deriving Repr, DecidableEq

/-- What a step of a script leads to. -/
inductive Outcome (α : Type) where
  | done (r : Except Stop α) (s : State)
  | pause (a : Occasion) (w : World) (next : World → Outcome α)

/-- A step of a script. -/
def Run (α : Type) : Type :=
  State → Outcome α

namespace Run

/-- Goes on after a step, however it ended. -/
def afterwards {α β : Type} (f : Except Stop α → Run β) : Outcome α → Outcome β
  | .done r s => f r s
  | .pause a w next => .pause a w fun w => afterwards f (next w)

instance : Monad Run where
  pure a := fun s => .done (.ok a) s
  bind step f := fun s =>
    afterwards (fun
      | .ok a => f a
      | .error stop => fun s => .done (.error stop) s) (step s)

instance : MonadStateOf State Run where
  get := fun s => .done (.ok s) s
  set s := fun _ => .done (.ok ()) s
  modifyGet f := fun s => .done (.ok (f s).1) (f s).2

instance : MonadExceptOf Stop Run where
  throw stop := fun s => .done (.error stop) s
  tryCatch step f := fun s =>
    afterwards (fun
      | .ok a => fun s => .done (.ok a) s
      | .error stop => f stop) (step s)

/-- Waits. -/
def pause (a : Occasion) : Run Unit := fun s =>
  .pause a s.world fun w => .done (.ok ()) { s with world := w }

end Run

/-- Nothing in particular. -/
def Mode.plain : Mode := ⟨false, false⟩

/-- The command's outcome is asked for. -/
def Mode.test : Mode := ⟨true, false⟩

namespace State

/-- The files as this process sees them. -/
def files (s : State) : FileSystem :=
  { s.world.files with workingDirectory := s.directory }

/-- Changes the files. -/
def withFiles (s : State) (fs : FileSystem) : State :=
  { s with world := { s.world with files := fs } }

/-- Is an option set? -/
def has (s : State) (o : Char) : Bool :=
  s.options.contains o

/-- Sets or clears an option. -/
def withOption (s : State) (o : Char) (on : Bool) : State :=
  let others := s.options.filter (· != o)
  { s with options := if on then o :: others else others }

/-- The value of a variable. -/
def value? (s : State) (name : String) : Option (List Char) :=
  (s.bindings.get? name).bind Variable.value

/-- The characters between fields. -/
def separators? (s : State) : Option (List Char) :=
  s.value? "IFS"

/-- The variables that other programs see. -/
def environment (s : State) : Table String (List Char) :=
  s.bindings.filterMap fun v =>
    if v.2.exported then v.2.value.map fun x => (v.1, x) else none

/-- The variables that come from another program. -/
def exported (environment : Table String (List Char)) : Table String Variable :=
  environment.map fun v => (v.1, ⟨some v.2, true, false⟩)

/-- The descriptors of the process. -/
def descriptors (s : State) : Table Nat Nat :=
  s.world.descriptors s.process

/-- Gives the process other descriptors. -/
def withDescriptors (s : State) (ds : Table Nat Nat) : State :=
  { s with world := s.world.withDescriptors s.process ds }

/-- Opens a file as a descriptor. -/
def openAs (s : State) (fd : Nat) (f : OpenFile) : State :=
  let (id, world) := s.world.openFile f
  { s with world := world }.withDescriptors (s.descriptors.set fd id)

/-- Writes to a descriptor if that can be done. -/
def writeAnyway (s : State) (fd : Nat) (text : Supply) : State :=
  match s.world.writeTo s.process fd text with
  | .ok w => { s with world := w }
  | .error _ => s

/-- The words for the lack of somebody who could look after jobs. -/
def noTerminal : String :=
  "can't access tty; job control turned off"

/-- Writes a message about the script to standard error. -/
def complain (s : State) (message : String) : State :=
  let before := match s.builtin with
    | some b => b ++ ": "
    | none => ""
  let text := s!"{s.name}: {Nat.repr s.line}: {before}{message}\n"
  s.writeAnyway 2 (.ofString text)

/-- Comes to a line of the script. -/
def atLine (s : State) (line : Nat) : State :=
  { s with line := line }

end State

namespace Run

/-- Reports a mistake and stops. -/
def fail {α : Type} (message : String) : Run α := do
  modify fun s => { s with status := 2 }.complain message
  throw .mistake

/-- Reports something and goes on with an outcome. -/
def warn (message : String) (status : Nat) : Run Nat := do
  modify (·.complain message)
  return status

/-- Runs a step and says why it stopped, if it did. -/
def attempt {α : Type} (step : Run α) : Run (Except Stop α) := fun s =>
  afterwards (fun r s => .done (.ok r) s) (step s)

/-- Runs a step, and then another one however the first one ended; only a process that becomes another
program leaves everything as it is. -/
def after {α : Type} (step : Run α) (cleanup : Run Unit) : Run α := do
  match ← attempt step with
  | .ok a =>
    cleanup
    return a
  | .error (.become c) => throw (.become c)
  | .error stop =>
    cleanup
    throw stop

/-! ### Time and processes -/

/-- Lets time go by. -/
def spend (t : Time) : Run Unit := do
  pause (.time ((← get).world.clock + t))

/-- The time that it takes to start a process, for the one that starts it, until the other one runs,
and until a program runs in it. -/
def forkTime : Time × Time × Time := (100, 200, 800)

/-- Starts a process.  It has the state and the descriptors that are given, and ignores the same
signals and `ignored` ones. -/
def start (errand : Errand) (s : State) (descriptors : Table Nat Nat) (ignored : List Signal) :
    Run ProcessId := do
  modify fun s => { s with jobs := s.jobs.filter fun j => !j.waited || j.isRunning s.world }
  let (child, world) := (← get).world.fresh
  let self := (← get).process
  let ignored := ignored ++ ((world.processes.get? self).map ProcessState.ignored).getD []
  let entry : ProcessState :=
    { parent := self, descriptors := descriptors, kept := [], ignored := ignored, caught := []
      arrived := [], ending := none, noticed := false }
  modify fun t => { t with world := { world with processes := world.processes.set child entry } }
  pause (.start child errand { s with process := child })
  spend forkTime.1
  return child

/-- Takes notice of processes that have ended. -/
def notice : Run Unit :=
  modify fun s =>
    { s with world := s.world.notice s.process (s.jobs.flatMap Job.processes) }

/-- The endings of processes, after they have ended. -/
def await (ps : List ProcessId) : Run (List Ending) := do
  pause (.ended ps false)
  let w := (← get).world
  notice
  return ps.map fun p => (w.ending? p).getD (.status 0)

/-! ### Reading and writing -/

/-- Ends the process by a signal, unless it is looked after. -/
def raise (signal : Signal) : Run Unit := do
  let s ← get
  match s.world.send? s.process signal with
  | some w =>
    set { s with world := w }
    if !w.isAlive s.process then throw (.killed signal)
  | none => return ()

/-- Writes to a descriptor.  A pipe that is full is waited for, and one that nobody reads ends the
process.  What has no end is written for ever. -/
def write (fd : Nat) (text : Supply) : Run (Except OsError Unit) := do
  let s ← get
  match s.world.writeTo s.process fd text with
  | .error .brokenPipe =>
    raise Signal.brokenPipe
    return .error .brokenPipe
  | .error e => return .error e
  | .ok w =>
    set { s with world := w }
    match w.opened? s.process fd with
    | some (_, .writeEnd n) =>
      if text.isEndless then
        pause (.abandoned n)
        raise Signal.brokenPipe
        return .error .brokenPipe
      else
        if (w.pipe n).size > World.pipeCapacity then pause (.room n)
        return .ok ()
    | _ =>
      -- What is never written to its end keeps the process for ever.
      if text.isEndless then pause .never
      return .ok ()

/-- Writes to standard output, and notes if that cannot be done. -/
def print (text : Supply) : Run Unit := do
  if !(← write 1 text).isOk then modify fun s => { s with writeFailed := true }

/-- Waits until something can be read, and gives it with the question whether that is all. -/
def available (fd : Nat) : Run (Except OsError (Nat × Supply × Bool)) := do
  let look : Run (Except OsError (Nat × Supply × Bool)) := do
    let s ← get
    match s.world.opened? s.process fd with
    | none => return .error .badDescriptor
    | some (id, f) => return (s.world.readable f).map fun r => (id, r)
  match ← look with
  | .ok (id, supply, whole) =>
    let s ← get
    match s.world.opened.get? id with
    | some (.readEnd n) =>
      if supply.isEmpty && !whole then
        pause (.contents n)
        look
      else return .ok (id, supply, whole)
    | _ => return .ok (id, supply, whole)
  | .error e => return .error e

/-- Takes octets away that were read. -/
def consume (id count : Nat) : Run Unit :=
  modify fun s => { s with world := s.world.consume id count }

/-- The most pieces that are read of one file. -/
def pieceLimit : Nat := 1000000

/-- Reads until there is enough or nothing more; `enough` sees everything so far. -/
def readUntil (fd : Nat) (enough : Octets → Bool) :
    (fuel : Nat) → (before : Octets) → Run (Except OsError Supply)
  | 0, before => return .ok (.ofOctets before)
  | fuel + 1, before => do
    match ← available fd with
    | .error e => return .error e
    | .ok (id, supply, whole) =>
      consume id supply.octets.length
      let all := before ++ supply.octets
      if whole then return .ok ⟨all, supply.endless⟩
      else if enough all then return .ok (.ofOctets all)
      else readUntil fd enough fuel all

/-! ### Variables -/

/-- Sets a variable; `exported` marks it for other programs. -/
def assign (name : String) (value : List Char) (exported : Bool) : Run Unit := do
  let s ← get
  if !isName (ofString name) then fail s!"{name}: bad variable name"
  else
    let v := (s.bindings.get? name).getD ⟨none, false, false⟩
    if v.readOnly then fail s!"{name}: is read only"
    else
      let v := { v with value := some value, exported := v.exported || exported || s.has 'a' }
      let s := { s with bindings := s.bindings.set name v }
      if name = "OPTIND" then
        match (integer? value).filter (0 ≤ ·) with
        | some n => set { s with optionIndex := max 1 n.toNat, optionOffset := none }
        | none => fail s!"Illegal number: {toName value}"
      else set s

/-- Takes a variable away. -/
def unassign (name : String) : Run Unit := do
  let s ← get
  match s.bindings.get? name with
  | some v =>
    if v.readOnly then fail s!"{name}: is read only"
    else set { s with bindings := s.bindings.remove name }
  | none => return ()

/-- Makes a variable local to the running function, or to the command that is prepared. -/
def makeLocal (name : String) : Run Unit :=
  modify fun s =>
    match s.locals with
    | frame :: frames => { s with locals := ((name, s.bindings.get? name) :: frame) :: frames }
    | [] => s

/-- Opens a place for local variables. -/
def openLocals : Run Unit :=
  modify fun s => { s with locals := [] :: s.locals }

/-- The name under which the options are kept. -/
def optionsName : String := "-"

/-- Gives the local variables back what they were before. -/
def closeLocals : Run Unit :=
  modify fun s =>
    match s.locals with
    | frame :: frames =>
      let s := { s with locals := frames }
      frame.foldl (fun (s : State) e =>
        if e.1 = optionsName then
          { s with options := (((e.2.bind Variable.value).getD []) : List Char) }
        else
          { s with
            bindings := match e.2 with
              | some v => s.bindings.set e.1 v
              | none => s.bindings.remove e.1 }) s
    | [] => s

end Run

end Streamkeeper.StandIn.Shell
