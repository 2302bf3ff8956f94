import Streamkeeper.StandIn.Shell.Builtin.Flags
import Streamkeeper.StandIn.Shell.Fork

/-!
Builtins for signals and processes.
-/

namespace Streamkeeper.StandIn.Shell.Builtin

/-- Notes in the world which signals the script looks after or ignores. -/
def setDisposition (signal : Signal) (action : Option (List Char)) : Run Unit :=
  modify fun s =>
    { s with
      world := s.world.update s.process fun p =>
        let caught := p.caught.erase signal
        let ignored := p.ignored.erase signal
        match action with
        | none => { p with caught := caught, ignored := ignored }
        | some [] => { p with caught := caught, ignored := signal :: ignored }
        | some _ => { p with caught := signal :: caught, ignored := ignored } }

/-- Says what is to be done at signals; without words it shows what is done. -/
def trap (args : List (List Char)) : Run Nat := do
  let (_, args) ← readFlags [] args
  match args with
  | [] =>
    let s ← get
    for signal in List.range (Signal.last + 1) do
      match s.traps.get? signal with
      | some action =>
        printLine (ofString "trap -- " ++ quote action ++ ' ' :: ofString (Signal.name signal))
      | none => pure ()
    return 0
  | first :: rest =>
    let resets : Bool := rest.isEmpty || ((natural? first).filter (· ≤ Signal.last)).isSome
    let action : Option (List Char) := if resets || first == ['-'] then none else some first
    setAll action (if resets then args else rest)
where
  /-- Does the same at several signals. -/
  setAll (action : Option (List Char)) : List (List Char) → Run Nat
    | [] => return 0
    | w :: ws => do
      match Signal.ofWord? 0 w with
      | none =>
        modify (·.writeAnyway 2 (.ofString s!"trap: {toName w}: bad trap\n"))
        return 1
      | some signal =>
        modify fun s =>
          { s with
            traps := match action with
              | some a => s.traps.set signal a
              | none => s.traps.remove signal }
        if signal != 0 then setDisposition signal action
        setAll action ws

/-- How `kill` is called. -/
def killUsage : String :=
  "Usage: kill [-s sigspec | -signum | -sigspec] [pid | job]... or\nkill -l [exitstatus]"

/-- Shows the names of signals. -/
def listSignals (args : List (List Char)) : Run Nat := do
  match args with
  | [] =>
    let names := (List.range (Signal.last + 1)).map fun s => if s = 0 then "0" else Signal.name s
    Run.print (.ofString (String.join (names.map (· ++ "\n"))))
    return 0
  | w :: _ =>
    let n ← number w
    let n := if n > 128 then n - 128 else n
    if 0 < n ∧ n ≤ Signal.last then
      printLine (ofString (Signal.name n))
      return 0
    else Run.fail s!"invalid signal number or exit status: {toName w}"

/-- Sends a signal to a process, and says whether there is one. -/
def send (signal : Signal) (receiver : ProcessId) : Run Bool := do
  let s ← get
  match s.world.send? receiver signal with
  | none => return false
  | some w =>
    if receiver = s.process then Run.raise signal
    else MonadStateOf.set { s with world := w }
    return true

/-- The job that a word names. -/
def jobNamed (w : List Char) : Run Job := do
  let jobs := (← get).jobs.reverse
  let found (j : Option Job) (message : String) : Run Job :=
    match j with
    | some j => return j
    | none => Run.fail message
  let unknown := s!"No such job: {toName w}"
  match w with
  | ['%'] => found jobs.head? "No current job"
  | ['%', '%'] => found jobs.head? "No current job"
  | ['%', '+'] => found jobs.head? "No current job"
  | ['%', '-'] => found jobs[1]? "No previous job"
  | '%' :: digits => found (jobs.find? fun j => natural? digits == some j.number) unknown
  | _ => Run.fail unknown

/-- Sends a signal to processes.  Jobs have no groups of their own, so none is found. -/
def sendAll (signal : Signal) : List (List Char) → Run Nat
  | [] => return 0
  | w :: ws => do
    let found ← match w with
      | '-' :: digits => do
        let _ ← number digits
        pure false
      | '%' :: _ => do
        let _ ← jobNamed w
        pure false
      | _ => do send signal (← number w)
    if !found then modify (·.complain "No such process\n")
    let status ← sendAll signal ws
    return if found then status else 1

/-- Sends signals, or shows their names. -/
def kill (args : List (List Char)) : Run Nat := do
  match args with
  | [] => Run.fail killUsage
  | first :: rest =>
    let (signal, isList, targets) : Option Signal × Bool × List (List Char) ←
      match first with
      | '-' :: name =>
        match Signal.ofWord? 1 name with
        | some signal => pure (some signal, false, rest)
        | none => do
          let (fs, targets) ← readFlags [('l', false), ('s', true)] args
          let signal ← match (fs.filter fun f => f.letter == 's').getLast? with
            | none => pure none
            | some f =>
              match Signal.ofWord? 1 f.value with
              | some signal => pure (some signal)
              | none => Run.fail s!"invalid signal number or name: {toName f.value}"
          pure (signal, fs.any fun f => f.letter == 'l', targets)
      | _ => pure (none, false, args)
    if isList then
      if signal.isSome then Run.fail killUsage else listSignals targets
    else if targets.isEmpty then Run.fail killUsage
    else sendAll (signal.getD Signal.terminate) targets

/-! ### Waiting -/

/-- Waits for processes.  The outcome is that of a signal, if one cut the wait short. -/
def await (ps : List ProcessId) : Run (Option Nat) := do
  Run.pause (.ended ps true)
  let s ← get
  return ((s.world.arrived s.process).getLast?).map (128 + ·)

/-- Notes that jobs were waited for. -/
def markWaited (isMeant : Job → Bool) : Run Unit :=
  modify fun s =>
    { s with jobs := s.jobs.map fun j => if isMeant j then { j with waited := true } else j }

/-- Waits for all jobs. -/
def waitForAll : Run Nat := do
  match ← await ((← get).jobs.flatMap Job.processes) with
  | some status => return status
  | none =>
    Run.notice
    markWaited fun _ => true
    return 0

/-- Waits for jobs, as long as there are any; `status` is the outcome of the last one. -/
def waitForEach (status : Nat) : List (List Char) → Run Nat
  | [] => return status
  | w :: ws => do
    let job? : Option Job ← match w with
      | '%' :: _ => do pure (some (← jobNamed w))
      | _ => do
        let p ← number w
        pure ((← get).jobs.find? fun j => j.processes.getLast? == some p)
    match job? with
    | none => waitForEach 127 ws
    | some j =>
      match ← await j.processes with
      | some status => return status
      | none =>
        let s ← get
        let isNew (p : ProcessId) : Bool :=
          ((s.world.processes.get? p).map fun e => !e.noticed).getD false
        let ending (p : ProcessId) : Ending := (s.world.ending? p).getD (.status 0)
        Run.announce ((j.processes.filter isNew).map ending)
        Run.notice
        markWaited (· == j)
        waitForEach ((j.processes.getLast?.map fun p => (ending p).code).getD 0) ws

/-- Waits for processes that run beside the script. -/
def wait (args : List (List Char)) : Run Nat := do
  let (_, args) ← readFlags [] args
  if args.isEmpty then waitForAll else waitForEach 0 args

/-- Shows the time that was used. -/
def times (_ : List (List Char)) : Run Nat := do
  let line := "0m0.000000s 0m0.000000s\n"
  Run.print (.ofString (line ++ line))
  return 0

/-! ### Jobs -/

/-- The state of a job in words. -/
def jobState (w : World) (j : Job) : String :=
  if j.isRunning w then "Running"
  else
    match j.processes.getLast?.bind w.ending? with
    | some (.signal signal) => Signal.text signal
    | some (.status n) => if n % 256 = 0 then "Done" else s!"Done({Nat.repr (n % 256)})"
    | none => "Done"

/-- The width of a job before its commands, which are not known. -/
def jobWidth : Nat := 33

/-- A job as a line. -/
def jobLine (s : State) (withProcess : Bool) (j : Job) : List Char :=
  let newest := s.jobs.reverse
  let sign := if newest.head? = some j then "+" else if newest[1]? = some j then "-" else " "
  let process := if withProcess then Nat.repr (j.processes.headD 0) ++ " " else ""
  let text := (s!"[{Nat.repr j.number}] {sign} {process}{jobState s.world j}").toList
  text ++ List.replicate (jobWidth - text.length) ' ' ++
    (List.replicate (j.processes.length - 1) [' ', '|', ' ']).flatten

/-- Shows the processes that run beside the script; those that have ended are forgotten. -/
def showJobs (args : List (List Char)) : Run Nat := do
  let (fs, names) ← readFlags [('l', false), ('p', false)] args
  let jobs ← if names.isEmpty then do pure (← get).jobs.reverse else names.mapM jobNamed
  for j in jobs do
    let s ← get
    if fs.any fun f => f.letter == 'p' then printLine (ofNumber (j.processes.headD 0))
    else printLine (jobLine s (fs.any fun f => f.letter == 'l') j)
    if !j.isRunning s.world then
      modify fun s => { s with jobs := s.jobs.filter (· != j) }
      Run.notice
  return 0

/-- Lets a job go on, which needs a keyboard that controls jobs. -/
def resume (args : List (List Char)) : Run Nat := do
  let _ ← jobNamed (args.headD ['%'])
  Run.fail "job not created under job control"

end Streamkeeper.StandIn.Shell.Builtin
