import Streamkeeper.Execution.Lifecycle

/-!
The object behind an external process.

A supervisor spawns one child, has a reader for each of the child's two outputs, and keeps the exit
code.  The parts are set by different steps: a start that succeeds sets the child and its readers, a
wait sets the exit code and uses the readers up, and nothing takes the child away again.
-/

namespace Streamkeeper.Execution

variable {σ ω : Type}

/-- A reader that has not been waited for, with all that the child writes for it. -/
inductive Reader where
  | output (chunks : List Octets)
  | errors (octets : Octets)
deriving Repr, DecidableEq

/-- The readers of a child. -/
def Child.readers (c : Child) : List Reader :=
  [.output c.output, .errors c.errors]

namespace Reader

/-- Waits for a reader: how it failed, what it logged, and the last state of the handler.  The reads
themselves are assumed to succeed, so the output fails by a refusal of the handler only, and the
errors by a line that is no text. -/
def finish (launch : Provisioning.Launch) (handler : Option (Handler σ)) (r : Reader) (s : σ) :
    Option ProcessError × List Notice × σ :=
  match r with
  | .output chunks =>
    let (refusal, s) := match handler with
      | some h => deliver h chunks s
      | none => (none, s)
    let forwarded := if launch.forwardsOutput then forwardedLines chunks.flatten else []
    (refusal.map (.handler launch.name), forwarded.map .output, s)
  | .errors octets =>
    let (logged, flaw) := errorLines (Text.lines octets)
    (flaw.map fun f => .reader launch.name f.message, logged.map .errors, s)

/-- Waits for readers in their order; the first failure is the one that is reported. -/
def finishAll (launch : Provisioning.Launch) (handler : Option (Handler σ)) :
    List Reader → σ → Option ProcessError × List Notice × σ
  | [], s => (none, [], s)
  | r :: rs, s =>
    let (failure, notices, s) := r.finish launch handler s
    let (failure', notices', s) := finishAll launch handler rs s
    (failure.or failure', notices ++ notices', s)

end Reader

/-- What is launched, the child once it was spawned, the readers that are left, and the exit code
once it is known. -/
structure Supervisor where
  launch : Provisioning.Launch
  child : Option Child
  readers : List Reader
  exitCode : Option Int
deriving Repr, DecidableEq

namespace Supervisor

/-- The supervisor of a process that was not started yet. -/
def ofLaunch (launch : Provisioning.Launch) : Supervisor :=
  { launch := launch, child := none, readers := [], exitCode := none }

/-- The exit code as callers see it. -/
def code (p : Supervisor) : Int :=
  p.exitCode.getD noExitCode

/-- Spawns the child, unless there is one. -/
def start (spawn : ω → Except Host.IoError Child × ω) (p : Supervisor) (w : ω) :
    Except ProcessError Unit × Supervisor × List Notice × ω :=
  match p.child with
  | some _ => (.error (.alreadyStarted p.launch.name), p, [], w)
  | none =>
    let notices := [Notice.starting p.launch.commandLine]
    match spawn w with
    | (.error e, w) => (.error (.spawn p.launch.name e), p, notices, w)
    | (.ok child, w) =>
      (.ok (), { p with child := some child, readers := p.readers ++ child.readers }, notices, w)

/-- Waits for the child to end and for the readers that are left. -/
def wait (handler : Option (Handler σ)) (p : Supervisor) (s : σ) :
    Except ProcessError Unit × Supervisor × List Notice × σ :=
  match p.child with
  | none => (.error (.notStarted p.launch.name), p, [], s)
  | some child =>
    let (failure, notices, s) := Reader.finishAll p.launch handler p.readers s
    (resultOf failure, { p with readers := [], exitCode := some child.code }, notices, s)

end Supervisor

end Streamkeeper.Execution
