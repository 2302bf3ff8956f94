import Streamkeeper.StandIn.Shell.Image
import Streamkeeper.StandIn.Shell.Search
import Streamkeeper.StandIn.Shell.Switches

/-!
How the script interpreter is started: its switches, its script, and the first state of a script.
-/

namespace Streamkeeper.StandIn.Shell

open Host

/-- Where a script comes from. -/
inductive Source where
  | argument (text : List Char)
  | file (text : List Char)
  | input
deriving Repr, DecidableEq

/-- What the interpreter is started with. -/
structure Startup where
  source : Source
  name : List Char
  arguments : List (List Char)
  switches : List Char
  /-- What is shown before anything else. -/
  listing : List Char

namespace Startup

/-- The text of a script in a file. -/
def scriptIn (fs : FileSystem) (path : List Char) : Except String (List Char) :=
  let refuse (reason : String) : Except String (List Char) :=
    .error s!"cannot open {toName path}: {reason}"
  match fs.read (toName path) with
  | .ok content => .ok (ofOctets content)
  | .error (.os .noEntry) => refuse "No such file"
  | .error (.os .notADirectory) => refuse "No such file"
  | .error (.os .isADirectory) => .ok []
  | .error (.os e) => refuse e.text
  | .error _ => .ok []

/-- Reads the arguments of the interpreter, its name first.  The error is a message. -/
def ofArguments (fs : FileSystem) (args : List (List Char)) : Except String Startup :=
  let self := args.headD ['s', 'h']
  let found : Except String Startup := do
    let s ← Switches.read true [] args.tail
    if s.takesScript then
      match s.rest with
      | [] => throw "-c requires an argument"
      | [text] => return ⟨.argument text, self, [], s.on, s.listing⟩
      | text :: name :: rest => return ⟨.argument text, name, rest, s.on, s.listing⟩
    else
      match s.rest, s.on.contains 's' with
      | [], _ => return ⟨.input, self, [], 's' :: s.on.filter (· != 's'), s.listing⟩
      | rest, true => return ⟨.input, self, rest, s.on, s.listing⟩
      | path :: rest, false => return ⟨.file (← scriptIn fs path), path, rest, s.on, s.listing⟩
  found.mapError fun m => s!"{toName self}: 0: {m}"

end Startup

namespace State

/-- Variables that every script has from the start. -/
def standardVariables (parent : ProcessId) : Table String (List Char) :=
  [("IFS", [' ', '\t', '\n']), ("OPTIND", ['1']), ("PATH", Search.standardPath),
    ("PPID", ofNumber parent), ("PS1", ['#', ' ']), ("PS2", ['>', ' ']), ("PS4", ['+', ' '])]

/-- The variables that take their first value from elsewhere, if they have one. -/
def inherited : List String := ["PATH", "PS1", "PS2", "PS4"]

/-- The path of the working directory: what a variable says, if it is right. -/
def whereabouts (fs : FileSystem) (environment : Table String (List Char)) : List Char :=
  let plain := ofString ("/" ++ Path.ofNames fs.workingDirectory)
  match environment.get? "PWD" with
  | some path =>
    match path.head? == some '/', fs.locate true (toName path) with
    | true, .ok (.taken place _) => if place = fs.workingDirectory then path else plain
    | _, _ => plain
  | none => plain

/-- The state of a process before it runs a script. -/
def blank (world : World) (process : ProcessId) (directory : Place)
    (environment : Table String (List Char)) : State where
  world := world
  process := process
  own := process
  directory := directory
  directoryPath := whereabouts { world.files with workingDirectory := directory } environment
  name := "sh"
  arguments := []
  bindings := exported environment
  functions := []
  aliases := []
  documents := []
  remembered := []
  status := 0
  kept := none
  options := []
  mask := 18
  builtin := none
  line := 0
  depth := 0
  loops := 0
  locals := []
  traps := []
  jobs := []
  lastJob := none
  nestedStatus := 0
  optionIndex := 1
  optionOffset := none
  writeFailed := false
  showing := false

/-- The state of a script before its first command, in a process that may have run another one. -/
def ofStartup (s : State) (st : Startup) : State :=
  let t := blank s.world s.process s.directory s.environment
  let parent := ((s.world.processes.get? s.process).map ProcessState.parent).getD 0
  let given := standardVariables parent |>.filter fun v =>
    !(inherited.contains v.1 && t.bindings.has v.1)
  let bindings := given.foldl (fun (vs : Table String Variable) v =>
    vs.set v.1 ⟨some v.2, false, false⟩) t.bindings
  { t with
    name := toName st.name
    arguments := st.arguments
    bindings := bindings.set "PWD" ⟨some t.directoryPath, true, false⟩
    options := st.switches.filter (· != 'm') }

end State

end Streamkeeper.StandIn.Shell
