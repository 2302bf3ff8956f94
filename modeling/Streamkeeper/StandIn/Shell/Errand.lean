import Streamkeeper.StandIn.Shell.Evaluation
import Streamkeeper.StandIn.Shell.Schedule
import Streamkeeper.StandIn.Shell.Tool.Table

/-!
What a process does from its start to its end.

A process runs a command, a script or a tool.  It may go on as another program, and a script may want
something to be done before its end.
-/

namespace Streamkeeper.StandIn.Shell.Errand

open Host (OsError)

/-! ### Tools -/

/-- Reports that a tool could not write. -/
def writeError (tool : String) (e : OsError) : Run Nat := do
  modify (·.writeAnyway 2 (.ofString s!"{tool}: write error: {e.text}\n"))
  return 1

/-- Writes what a tool gives, and says whether that could be done. -/
def deliver (tool : String) : List (Nat × Supply) → Run Nat
  | [] => return 0
  | (fd, text) :: rest => do
    match ← Run.write fd text with
    | .ok _ => deliver tool rest
    | .error e => if fd = 1 then writeError tool e else deliver tool rest

/-- Changes octets as they come. -/
def stream (tool : String) (f : UInt8 → Option UInt8) : (fuel : Nat) → Run Nat
  | 0 => return 0
  | fuel + 1 => do
    match ← Run.available 0 with
    | .error e =>
      modify (·.writeAnyway 2 (.ofString s!"{tool}: -: {e.text}\n"))
      return 1
    | .ok (id, supply, whole) =>
      Run.consume id supply.octets.length
      match ← Run.write 1 (supply.filterMap f) with
      | .error e => writeError tool e
      | .ok _ => if whole then return 0 else stream tool f fuel

/-- What a tool reads of its standard input. -/
def inputFor (a : Appetite) : Run (Except OsError Supply) :=
  match a with
  | .nothing => return .ok .empty
  | .everything => Run.readUntil 0 (fun _ => false) Run.pieceLimit []
  | .upTo enough =>
    if enough [] then return .ok .empty else Run.readUntil 0 enough Run.pieceLimit []

/-- Puts octets back that were read too much, where that can be done. -/
def putBack (count : Nat) : Run Unit :=
  modify fun s =>
    match s.world.opened? s.process 0 with
    | some (id, .file place offset append reads writes) =>
      let f : OpenFile := .file place (offset - count) append reads writes
      { s with world := { s.world with opened := s.world.opened.set id f } }
    | _ => s

/-- Runs a tool. -/
def runTool (t : Tool) (args : List (List Char)) : Run Ending := do
  let self := toName (args.headD [])
  match t.octetwise? args.tail with
  | some f => return .status (← stream self f Run.pieceLimit)
  | none =>
    let input ← inputFor (t.appetite args.tail)
    let s ← get
    let seekable : Bool := match s.world.opened? s.process 0 with
      | some (_, .file _ _ _ _ _) => true
      | _ => false
    let r := t.run ⟨args.headD [], args.tail, s.files, s.environment, input, seekable⟩
    putBack r.unused
    if r.delay > 0 then Run.spend r.delay
    else modify (·.withFiles { r.files with workingDirectory := s.world.files.workingDirectory })
    let failed ← deliver self r.writings
    return .status (max r.status failed)

/-! ### Other variables for a program -/

/-- What a call with other variables asks for. -/
structure Surrounds where
  environment : Table String (List Char)
  command : List (List Char)

/-- Reads the flags and assignments before a command.  The error is a message. -/
def surrounds (self : String) : (fuel : Nat) → Table String (List Char) → List (List Char) → Except String Surrounds
  | 0, env, args => .ok ⟨env, args⟩
  | fuel + 1, env, args =>
    match args with
    | ['-'] :: rest => surrounds self fuel [] rest
    | ['-', 'i'] :: rest => surrounds self fuel [] rest
    | ['-', 'u'] :: name :: rest => surrounds self fuel (env.remove (toName name)) rest
    | ['-', '-'] :: rest => surrounds self fuel env rest
    | ('-' :: c :: _) :: _ => .error (s!"{self}: invalid option -- '{toName [c]}'" ++ Tool.hint self)
    | w :: rest =>
      match Builtin.splitAssignment w with
      | (name, some value) => surrounds self fuel (env.set (toName name) value) rest
      | (_, none) => .ok ⟨env, args⟩
    | [] => .ok ⟨env, []⟩

/-- Runs a program with other variables, or shows them. -/
def withOtherVariables (args : List (List Char)) : Run Ending := do
  let s ← get
  let self := toName (args.headD [])
  match surrounds self (args.length + 1) s.environment args.tail with
  | .error m =>
    modify (·.writeAnyway 2 (.ofString (m ++ "\n")))
    return .status 125
  | .ok e =>
    match e.command with
    | [] =>
      let line (v : String × List Char) : List Char := ofString v.1 ++ '=' :: v.2 ++ ['\n']
      Run.print (.ofChars (e.environment.flatMap line))
      return .status 0
    | name :: _ =>
      let places := (e.environment.get? "PATH").getD Search.standardPath
      match Search.program s.files places name with
      | .ok path =>
        set { s with bindings := State.exported e.environment }
        match Call.image (← get).files Call.interpreterLimit ⟨path, e.command⟩ with
        | .ok _ => throw (.become ⟨path, e.command⟩)
        | .error .execFormat => throw (.become ⟨path, e.command⟩)
        | .error refusal => refuse self name refusal
      | .error refusal => refuse self name refusal
where
  /-- Reports that a program cannot be run. -/
  refuse (self : String) (name : List Char) (e : OsError) : Run Ending := do
    modify (·.writeAnyway 2 (.ofString s!"{self}: {Tool.quoted name}: {e.text}\n"))
    return .status (if e = .noEntry then 127 else 126)

/-! ### Scripts -/

/-- How deep commands may stand inside each other. -/
def depthLimit : Nat := 40000

/-- Runs commands. -/
def runner : Runner :=
  Evaluation.evaluate depthLimit

/-- Runs a script with the interpreter. -/
def interpret (args : List (List Char)) : Run Nat := do
  let s ← get
  match Startup.ofArguments s.files args with
  | .error m =>
    modify (·.writeAnyway 2 (.ofString (m ++ "\n")))
    Evaluation.finish 2
    return 2
  | .ok st =>
    set (State.ofStartup s st)
    if st.switches.contains 'm' then modify (·.complain State.noTerminal)
    Run.print (.ofChars st.listing)
    match st.source with
    | .argument text =>
      let fromInput := st.switches.contains 's'
      let n ← Evaluation.script runner ⟨false, !fromInput⟩ false text
      if fromInput then readInput else return n
    | .file text => Evaluation.script runner .plain true text
    | .input => readInput
where
  /-- Runs a script from the standard input. -/
  readInput : Run Nat := do
    match ← Run.readUntil 0 (fun _ => false) Run.pieceLimit [] with
    | .ok supply => Evaluation.script runner .plain true (ofOctets supply.octets)
    | .error _ => return 0

/-- What a script wants to be done before its end. -/
def exitSignal : Signal := 0

/-- Ends a script whose outcome is its status: what it wanted to be done before is done. -/
def leave : Run Ending := do
  let s ← get
  match s.traps.get? exitSignal with
  | none => return .status s.status
  | some action =>
    set { s with traps := s.traps.remove exitSignal, kept := some s.status }
    match ← Run.attempt (Evaluation.script runner .plain false action) with
    | .ok _ => return .status s.status
    | .error (.killed signal) => return .signal signal
    | .error (.become c) => throw (.become c)
    | .error .back => return .status s.status
    | .error _ => return .status (← get).status

/-- Ends a step of a script. -/
def conclude (step : Run Nat) : Run Ending := do
  match ← Run.attempt step with
  | .ok _ => leave
  | .error (.killed signal) => return .signal signal
  | .error (.become c) => throw (.become c)
  | .error _ => leave

/-! ### Programs -/

/-- The interpreter of scripts without a first line that names one. -/
def interpreterPath : List Char := "/bin/sh".toList

/-- Runs a program in this process. -/
def runImage (i : Image) : Run Ending := do
  modify fun s =>
    { s with world := s.world.update s.process fun p => { p with caught := [], kept := [] } }
  Run.spend Run.forkTime.2.2
  if i.tool = "sh" then conclude (interpret i.arguments)
  else if i.tool = "env" then withOtherVariables i.arguments
  else
    match Tool.table.lookup i.tool with
    | some t => runTool t i.arguments
    | none => return .status 0

/-- Runs the file of a call in this process. -/
def runCall (c : Call) : Run Ending := do
  let s ← get
  match Call.image s.files Call.interpreterLimit c with
  | .ok i => runImage i
  | .error .execFormat =>
    runImage ⟨"sh", interpreterPath :: c.path :: c.arguments.tail⟩
  | .error e =>
    modify (·.complain s!"{toName (c.arguments.headD [])}: {Search.reason e}")
    return .status (Search.status e)

/-- Goes on as long as the process becomes another program. -/
def settle : (fuel : Nat) → Run Ending → Run Ending
  | 0, step => step
  | fuel + 1, step => do
    match ← Run.attempt step with
    | .ok e => return e
    | .error (.become c) => settle fuel (runCall c)
    | .error (.killed signal) => return .signal signal
    | .error _ => return .status (← get).status

/-- The number of programs that a process may become. -/
def becomeLimit : Nat := 100000

/-- Does what a process is for. -/
def perform (e : Errand) : Run Ending :=
  settle becomeLimit <|
    match e with
    | .program c => runCall c
    | .command m rs c =>
      conclude do
        rs.forM Redirection.rewire
        runner m c

end Streamkeeper.StandIn.Shell.Errand
