import Streamkeeper.Host.Environment
import Streamkeeper.StandIn.Shell.Errand
import Streamkeeper.StandIn.Standard

/-!
Running programs.

A program that is named with a slash is a file that may be executed; any other name is looked up
among the tools of the host.  What cannot be run is refused before anything happens.
-/

namespace Streamkeeper.StandIn

open Host (Environment FileSystem IoError OsError Place)

/-- What a program that was run leaves behind.  There is no exit code if a signal ended it. -/
structure Completion where
  output : Octets
  errors : Octets
  exitCode : Option Nat
  files : FileSystem
deriving Repr, DecidableEq

namespace Program

open Shell (Call World)

/-- What a world leaves behind in which all processes have ended. -/
def completion (w : World) (directory : Place) : Completion where
  output := (w.channel World.outputChannel).octets
  errors := (w.channel World.errorChannel).octets
  exitCode := match w.ending? World.firstProcess with
    | some (.status n) => some (n % 256)
    | _ => none
  files := { w.files with workingDirectory := directory }

/-- Runs a program and all processes that come of it. -/
def run (fs : FileSystem) (env : Environment) (c : Call) : Completion :=
  let s := Shell.State.blank (.initial fs) World.firstProcess fs.workingDirectory
    (env.map fun v => (v.1, Shell.ofString v.2))
  completion (World.run Shell.Errand.perform (.program c) s) fs.workingDirectory

/-- Does the text hold the NUL character? -/
def holdsNul (s : String) : Bool :=
  s.toList.contains '\x00'

/-- The file of a program that is named without a slash. -/
def lookUp (name : String) : Except OsError String :=
  if name = "." ∨ name = ".." then .error .permissionDenied
  else if FileSystem.nameLimit < octetCount name then .error .nameTooLong
  else if toolNames.contains name then .ok ("/usr/bin/" ++ name)
  else .error .noEntry

/-- Runs a program from its start to its end. -/
def spawn (fs : FileSystem) (env : Environment) (program : String) (args : List String) :
    Except IoError Completion :=
  if holdsNul program || args.any holdsNul then .error .nulInArgument
  else
    match if program.toList.contains '/' then .ok program else lookUp program with
    | .error e => .error (.os e)
    | .ok path =>
      let c : Call := ⟨Shell.ofString path, (program :: args).map Shell.ofString⟩
      match c.image fs Call.interpreterLimit with
      | .error e => .error (.os e)
      | .ok _ => .ok (run fs env c)

end Program

end Streamkeeper.StandIn
