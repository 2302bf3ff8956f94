import Streamkeeper.StandIn.Shell.Calling
import Streamkeeper.StandIn.Shell.Startup

/-!
Running commands.

`step` runs a command, given what runs the commands inside it; `evaluate` ties the knot.  Every command
inside another one takes one step of fuel, so that scripts which call themselves without end stop at
last.  A command that is not the last one of its process runs programs in processes of their own.
-/

namespace Streamkeeper.StandIn.Shell

open Host (OsError)

/-- What runs the commands inside a command. -/
abbrev Runner := Mode → Command → Run Nat

/-- Does the script look after signals, or after its end? -/
def State.hasTraps (s : State) : Bool :=
  s.traps.any fun t => !t.2.isEmpty

namespace Evaluation

/-- Sets the outcome of the last command. -/
def finish (status : Nat) : Run Unit :=
  modify fun s => { s with status := status }

/-! ### Scripts -/

/-- Runs the lines of a script that are left; `shows` says whether lines may be shown as they are
read. -/
def lines (run : Runner) (m : Mode) (shows : Bool) :
    (limit : Nat) → Reading → (status : Nat) → Run Nat
  | 0, _, status => return status
  | limit + 1, r, status => do
    let s ← get
    let r := { r with aliases := s.aliases, documents := [], nextDocument := s.documents.length }
    let display (rest : List Char) : Run Unit := do
      if shows && s.has 'v' then
        modify (·.writeAnyway 2 (.ofChars (r.rest.take (r.rest.length - rest.length))))
    match Reader.nextLine.run r with
    | .error e =>
      display []
      modify fun s => { s with line := e.line }
      Run.fail e.message
    | .ok (line, r') =>
      display r'.rest
      modify fun s => { s with documents := s.documents ++ r'.documents }
      match line with
      | .finish => return status
      | .nothing => lines run m shows limit r' status
      | .command c last =>
        let status ← run ⟨m.tested, m.last && last⟩ c
        lines run m shows limit r' status

/-- Runs a script, line after line. -/
def script (run : Runner) (m : Mode) (shows : Bool) (text : List Char) : Run Nat := do
  let s ← get
  lines run m shows (text.length + 2) (Reading.ofText text s.aliases s.documents.length) 0

/-- Does what the script wants to be done at the signals that have arrived. -/
def lookAfterSignals (run : Runner) : Run Unit := do
  let s ← get
  for signal in s.world.arrived s.process do
    modify fun s =>
      { s with
        world := s.world.update s.process fun p => { p with arrived := p.arrived.erase signal } }
    match s.traps.get? signal with
    | some action =>
      let before := (← get).kept
      let status := before.getD (← get).status
      modify fun s => { s with kept := some status }
      Run.after (do
        let _ ← script run .plain false action
        finish status) (modify fun s => { s with kept := before })
    | none => pure ()

/-! ### Loops and branches -/

/-- The time of a round of a loop. -/
def roundTime : Time := 5

/-- Is a loop left by a stop inside it?  If it goes on with its next round, it is not.  Other stops go
on to stop what is around the loop. -/
def leavesLoop : Stop → Run Bool
  | .breakOff n => if n ≤ 1 then return true else throw (.breakOff (n - 1))
  | .again n => if n ≤ 1 then return false else throw (.again (n - 1))
  | stop => throw stop

/-- Runs a step inside one more loop. -/
def inLoop (step : Run Nat) : Run Nat := do
  modify fun s => { s with loops := s.loops + 1 }
  Run.after step (modify fun s => { s with loops := s.loops - 1 })

/-- Runs the rounds of a loop, as long as the condition comes out as `wanted`. -/
def rounds (wanted : Bool) (condition body : Run Nat) : (limit : Nat) → (status : Nat) → Run Nat
  | 0, status => return status
  | limit + 1, status => do
    Run.spend roundTime
    match ← Run.attempt condition with
    | .error stop =>
      if ← leavesLoop stop then return status
      else rounds wanted condition body limit status
    | .ok n =>
      if (n == 0) != wanted then return status
      else
        match ← Run.attempt body with
        | .ok status => rounds wanted condition body limit status
        | .error stop =>
          if ← leavesLoop stop then return 0
          else rounds wanted condition body limit 0

/-- Runs the body of a loop for one value after the other. -/
def forValues (name : String) (body : Run Nat) : List (List Char) → (status : Nat) → Run Nat
  | [], status => return status
  | v :: vs, _ => do
    Run.spend roundTime
    Run.assign name v false
    match ← Run.attempt body with
    | .ok status => forValues name body vs status
    | .error stop => if ← leavesLoop stop then return 0 else forValues name body vs 0

/-- Does one of the patterns fit? -/
def anyFits (text : List Char) : List Word → Run Bool
  | [] => return false
  | w :: ws => do
    if Pattern.fits (← Expansion.pattern Run.substitute w) text then return true
    else anyFits text ws

/-- Runs the first branch that has a fitting pattern. -/
def selection (run : Command → Run Nat) (text : List Char) :
    List (List Word × Option Command) → Run Nat
  | [] => return 0
  | (patterns, body) :: rest => do
    if ← anyFits text patterns then
      match body with
      | some c => run c
      | none => return 0
    else selection run text rest

/-! ### Processes -/

/-- Gives a table of descriptors an empty standard input. -/
def withoutInput (ds : Table Nat Nat) : Run (Table Nat Nat) := do
  let s ← get
  let (id, world) := s.world.openFile .sink
  set { s with world := world }
  return ds.set 0 id

/-- Notes that processes run beside the script. -/
def addJob (ps : List ProcessId) : Run Unit :=
  modify fun s =>
    let isFree (n : Nat) : Bool := !s.jobs.any fun j => j.number == n
    let number := ((List.range (s.jobs.length + 2)).find? fun n => 0 < n && isFree n).getD 1
    { s with jobs := s.jobs ++ [⟨number, ps, false⟩], lastJob := ps.getLast?.or s.lastJob }

/-- The signals that a process in the background ignores. -/
def backgroundIgnored : List Signal := [2, 3]

/-- Starts the commands of a pipeline, each of which reads what the one before it writes; `input` is
what the first one reads. -/
def startPipeline (m : Mode) (ignored : List Signal) :
    (input : Option Nat) → List Command → Run (List ProcessId)
  | _, [] => return []
  | input, c :: cs => do
    let before := (← get).descriptors
    let wired := match input with
      | some id => before.set 0 id
      | none => before
    if cs.isEmpty then return [← Run.startCommand m [] c wired ignored]
    else
      let (reading, writing) ← Run.openPipe
      -- The script holds the end that the next command reads until that one has started.
      Run.withDescriptors (·.set (Run.hidden reading) reading)
      let p ← Run.startCommand m [] c (wired.set 1 writing) ignored
      let ps ← startPipeline m ignored (some reading) cs
      Run.withDescriptors (·.remove (Run.hidden reading))
      return p :: ps

/-- Runs a pipeline. -/
def pipeline (m : Mode) (inBackground : Bool) (cs : List Command) : Run Nat := do
  if inBackground then
    let ds ← withoutInput []
    addJob (← startPipeline ⟨m.tested, true⟩ backgroundIgnored (ds.get? 0) cs)
    return 0
  else Run.awaitAll (← startPipeline ⟨m.tested, true⟩ [] none cs)

/-! ### Simple commands -/

/-- How many functions may run inside each other. -/
def callLimit : Nat := 1000

/-- Calls a function. -/
def call (run : Runner) (m : Mode) (body : Command) (args : List (List Char)) : Run Nat := do
  Run.spend 0
  let s ← get
  if s.depth ≥ callLimit then
    Run.fail s!"Maximum function recursion depth ({Nat.repr callLimit}) reached"
  set
    { s with
      arguments := args, depth := s.depth + 1, loops := 0
      optionIndex := 1, optionOffset := none }
  let r ← Run.attempt (run ⟨m.tested, false⟩ body)
  modify fun t =>
    { t with
      arguments := s.arguments, depth := s.depth, loops := s.loops
      optionIndex := s.optionIndex, optionOffset := s.optionOffset }
  match r with
  | .ok n => return n
  | .error .back => return (← get).status
  | .error stop => throw stop

/-- Runs a file as a part of the script. -/
def source (run : Runner) (args : List (List Char)) : Run Nat := do
  let (_, args) ← Builtin.readFlags [] args
  match args with
  | [] => return 0
  | name :: _ =>
    let s ← get
    let isFile (path : List Char) : Bool := s.files.stat (toName path) matches .ok (.file _ _)
    let found : Option (List Char) :=
      if name.contains '/' then some name
      else ((Search.directories (Search.pathOf s)).map (Search.inDirectory · name)).find? isFile
    match found with
    | none => Run.fail s!"{toName name}: not found"
    | some path =>
      match Startup.scriptIn s.files path with
      | .error message => Run.fail message
      | .ok text =>
        modify fun s => { s with builtin := some (toName path) }
        match ← Run.attempt (script run .plain true text) with
        | .ok status => return status
        | .error .back => return (← get).status
        | .error stop => throw stop

/-- Goes on as a program. -/
def become (args : List (List Char)) : Run Nat := do
  let (_, args) ← Builtin.readFlags [] args
  match args with
  | [] => return 0
  | name :: _ =>
    let s ← get
    let refuse (e : OsError) : Run Nat := do
      modify (·.complain s!"{toName name}: {Search.reason e}")
      finish (Search.status e)
      throw (.leave false)
    match Search.program s.files (Search.pathOf s) name with
    | .error e => refuse e
    | .ok path =>
      let program : Call := ⟨path, args⟩
      match Call.image s.files Call.interpreterLimit program with
      | .ok _ => throw (.become program)
      | .error .execFormat => throw (.become program)
      | .error e => refuse e

/-- Tells what a name means, if that is asked for. -/
def describe (args : List (List Char)) : Run Nat := do
  let (fs, args) ← Builtin.readFlags [('p', false), ('v', false), ('V', false)] args
  let has (c : Char) : Bool := fs.any fun f => f.letter == c
  match args with
  | name :: _ =>
    let s ← get
    let path := if has 'p' then Search.standardPath else Search.pathOf s
    if has 'v' || has 'V' then Builtin.describe (has 'V') path name else return 0
  | [] => return 0

/-- Does what a builtin does. -/
def act (run : Runner) (m : Mode) (a : Builtin.Action) (args : List (List Char)) : Run Nat := do
  match a with
  | .own f => f args
  | .evaluate =>
    let (_, args) ← Builtin.readFlags [] args
    if args.isEmpty then return 0
    else script run ⟨m.tested, false⟩ false ([' '].intercalate args)
  | .source => source run args
  | .become => become args
  | .command => describe args

/-- Runs a builtin.  A mistake in one that is not special is survived. -/
def builtin (run : Runner) (m : Mode) (b : Builtin) (special : Bool) (name : List Char)
    (args : List (List Char)) : Run Nat := do
  let before := (← get).builtin
  modify fun s => { s with builtin := some (toName name), writeFailed := false }
  let flushed : Run Nat := do
    let status ← act run m b.action args
    if (← get).writeFailed then
      modify fun s => { s.complain s!"{toName name}: I/O error" with writeFailed := false }
      return status ||| 1
    else return status
  match ← Run.attempt (Run.after flushed (modify fun s => { s with builtin := before })) with
  | .ok status => return status
  | .error .mistake => if special then throw .mistake else return (← get).status
  | .error stop => throw stop

/-- Does what a command stands for. -/
def perform (run : Runner) (m : Mode) (c : Calling) : Run Nat := do
  let s ← get
  match c.args with
  | [] => return s.nestedStatus
  | name :: args =>
    match c.builtin with
    | some b => builtin run m b (c.special == some true) name args
    | none =>
      match if c.noFunctions then none else s.functions.get? (toName name) with
      | some body => call run m body args
      | none =>
        let path := if c.standardPath then Search.standardPath else Search.pathOf s
        match Search.program s.files path name with
        | .error e => Run.warn s!"{toName name}: {Search.reason e}" 127
        | .ok path =>
          if !name.contains '/' then
            modify fun s => { s with remembered := toName name :: s.remembered }
          let program : Call := ⟨path, name :: args⟩
          if m.last && !s.hasTraps then throw (.become program)
          else Run.awaitAll [← Run.startProgram program]

/-- Runs a simple command: its words, redirections and assignments, and then what it stands for. -/
def simple (run : Runner) (m : Mode) (line : Nat) (assignments : List (String × Word))
    (words : List Word) (rs : List Redirection) : Run Nat := do
  modify fun s => { s.atLine line with nestedStatus := 0 }
  let c ← Calling.ofWords words
  let before := (← get).descriptors
  let body : Run Nat := do
    let changes ← rs.mapM Redirection.prepare
    if !(← Redirection.applyAll changes) then
      finish 2
      if c.special = some true then throw .mistake else return 2
    else
      let shown ← c.assignAll assignments
      if (← get).has 'x' && !(← get).showing then
        Calling.display (← Calling.mark) before (shown ++ c.args)
      perform run m c
  let whole : Run Nat :=
    if c.isLocal then do
      Run.openLocals
      Run.after body Run.closeLocals
    else body
  if rs.isEmpty || c.becomes then whole else Redirection.restoring whole

/-! ### All commands -/

/-- Runs a command, given what runs the commands inside it, and says whether the script ends if it
fails. -/
def dispatch (run : Runner) (m : Mode) (c : Command) : Run Bool := do
  let inner : Mode := ⟨m.tested, false⟩
  match c with
  | .simple line assignments words rs =>
    finish (← simple run m line assignments words rs)
    return true
  | .not c =>
    let n ← run .test c
    finish (if n = 0 then 1 else 0)
    return false
  | .both a b =>
    if (← run .test a) = 0 then finish (← run m b)
    return false
  | .either a b =>
    if (← run .test a) ≠ 0 then finish (← run m b)
    return false
  | .sequence a b =>
    let _ ← run inner a
    finish (← run m b)
    return false
  | .branch condition yes no =>
    if (← run .test condition) = 0 then finish (← run m yes)
    else
      match no with
      | some no => finish (← run m no)
      | none => finish 0
    return false
  | .redirected line c rs =>
    modify (·.atLine line)
    let changes ← rs.mapM Redirection.prepare
    finish (← Redirection.restoring do
      if ← Redirection.applyAll changes then run inner c else return 2)
    return false
  | .loop wanted condition body =>
    finish (← inLoop (rounds wanted (run .test condition) (run inner body) Run.pieceLimit 0))
    return false
  | .forEach line name words body =>
    modify (·.atLine line)
    let values ← Calling.expandRest false words
    finish (← inLoop (forValues name (run inner body) values 0))
    return false
  | .select line subject branches =>
    modify (·.atLine line)
    let text ← Expansion.text Run.substitute .text subject
    finish (← selection (run m) text branches)
    return false
  | .function name body =>
    modify fun s => { s with functions := s.functions.set name body }
    finish 0
    return false
  | .subshell line c rs =>
    modify (·.atLine line)
    let changes ← rs.mapM Redirection.prepare
    let s ← get
    if m.last && !s.hasTraps then
      changes.forM Redirection.rewire
      finish (← run m c)
    else
      let p ← Run.startCommand ⟨m.tested, true⟩ changes c s.descriptors []
      finish (← Run.awaitAll [p])
    return true
  | .background line c rs =>
    modify (·.atLine line)
    let changes ← rs.mapM Redirection.prepare
    let ds ← withoutInput (← get).descriptors
    addJob [← Run.startCommand ⟨false, true⟩ changes c ds backgroundIgnored]
    finish 0
    return true
  | .pipeline inBackground cs =>
    finish (← pipeline m inBackground cs)
    return true

/-- Runs a command, given what runs the commands inside it. -/
def step (run : Runner) (m : Mode) (c : Command) : Run Nat := do
  let failureEnds : Bool ←
    if (← get).has 'n' then pure false
    else do
      lookAfterSignals run
      dispatch run m c
  lookAfterSignals run
  let s ← get
  if m.last || (failureEnds && !m.tested && s.has 'e' && s.status != 0) then throw (.leave false)
  return s.status

/-- The signal that ends a process without room for more commands inside each other. -/
def overflow : Signal := 11

/-- Runs a command. -/
def evaluate : (fuel : Nat) → Runner
  | 0 => fun _ _ => throw (.killed overflow)
  | fuel + 1 => step (evaluate fuel)

end Evaluation

end Streamkeeper.StandIn.Shell
