import Streamkeeper.Execution.Behaviour
import Streamkeeper.Execution.Output
import Streamkeeper.Provisioning.Launch

/-!
The life of an external process.

A process is spawned at most once.  Waiting for it delivers its output; from then on its exit code is
known, and waiting again does nothing.
-/

namespace Streamkeeper.Execution

/-- What a spawned process does: the chunks of its standard output, its standard error, and the exit
code, unless a signal ended it.  Both outputs are read to their end and the process can be waited
for: the operating system refuses neither. -/
structure Child where
  output : List Octets
  errors : Octets
  exitCode : Option Nat
deriving Repr, DecidableEq

/-- How far a process has come. -/
inductive Phase where
  | idle
  | running (child : Child)
  | ended (exitCode : Int)
deriving Repr, DecidableEq

/-- A record about a process. -/
inductive Notice where
  | starting (commandLine : String)
  | output (line : String)
  | errors (line : String)
deriving Repr, DecidableEq

/-- The exit code of a process that has none. -/
def noExitCode : Int := -1

/-- The exit code of a child. -/
def Child.code (c : Child) : Int :=
  match c.exitCode with
  | some n => n
  | none => noExitCode

/-- The exit code as it is known in a phase. -/
def Phase.exitCode : Phase → Int
  | .ended code => code
  | _ => noExitCode

/-- Starts a process.  `spawn` changes the surroundings in `ω`, and is asked only if the process was
not spawned before. -/
def start {ω : Type} (launch : Provisioning.Launch)
    (spawn : ω → Except Host.IoError Child × ω) (phase : Phase) (w : ω) :
    Except ProcessError Unit × Phase × List Notice × ω :=
  match phase with
  | .idle =>
    let notices := [Notice.starting launch.commandLine]
    match spawn w with
    | (.ok child, w) => (.ok (), .running child, notices, w)
    | (.error e, w) => (.error (.spawn launch.name e), .idle, notices, w)
  | .running child => (.error (.alreadyStarted launch.name), .running child, [], w)
  | .ended code => (.error (.alreadyStarted launch.name), .ended code, [], w)

/-- Which of the two readers' failures is reported: a refusal of the handler comes first. -/
def readingFailure (name : String) (refusal : Option String) (flaw : Option Text.Utf8.Flaw) :
    Option ProcessError :=
  match refusal, flaw with
  | some message, _ => some (.handler name message)
  | none, some flaw => some (.reader name flaw.message)
  | none, none => none

/-- An outcome as a result. -/
def resultOf : Option ProcessError → Except ProcessError Unit
  | some e => .error e
  | none => .ok ()

/-- Waits for a process to end and delivers its output to the handler, if there is one. -/
def wait {σ : Type} (launch : Provisioning.Launch) (handler : Option (Handler σ)) (phase : Phase)
    (s : σ) : Except ProcessError Unit × Phase × List Notice × σ :=
  match phase with
  | .idle => (.error (.notStarted launch.name), .idle, [], s)
  | .ended code => (.ok (), .ended code, [], s)
  | .running child =>
    let (refusal, s) := match handler with
      | some h => deliver h child.output s
      | none => (none, s)
    let forwarded := if launch.forwardsOutput then forwardedLines child.output.flatten else []
    let (logged, flaw) := errorLines (Text.lines child.errors)
    (resultOf (readingFailure launch.name refusal flaw), .ended child.code,
      forwarded.map .output ++ logged.map .errors, s)

/-- The behaviour of a process whose output is all kept. -/
def behaviourOf (launch : Provisioning.Launch) (spawned : Except Host.IoError Child) : Behaviour :=
  match start launch (fun _ => (spawned, ())) .idle () with
  | (.error e, _, _, _) =>
    { startFailure := some e, chunks := [], runFailure := none, exitCode := noExitCode }
  | (.ok _, phase, _, _) =>
    let (result, phase, _, kept) := wait launch (some collect) phase []
    { startFailure := none
      chunks := kept
      runFailure := match result with
        | .ok _ => none
        | .error e => some e
      exitCode := phase.exitCode }

/-- The child that a completed program was. -/
def Child.ofCompletion (output errors : Octets) (exitCode : Option Nat) : Child :=
  ⟨chunks output, errors, exitCode⟩

end Streamkeeper.Execution
