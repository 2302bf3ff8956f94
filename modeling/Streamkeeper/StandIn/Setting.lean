import Streamkeeper.Daemon.Startup
import Streamkeeper.StandIn.Directories
import Streamkeeper.StandIn.Program

/-!
A host for the daemon, with the programs and directories of the modules beside this one.
-/

namespace Streamkeeper.StandIn

open Host (Environment FileSystem IoError)

/-- Runs a program to its end, and gives the child that it was and the files after it. -/
def child (fs : FileSystem) (env : Environment) (program : String) (args : List String) :
    Except IoError (Execution.Child × FileSystem) :=
  (Program.spawn fs env program args).map fun c =>
    (.ofCompletion c.output c.errors c.exitCode, c.files)

/-- The host with these variables. -/
def setting (env : Environment) (now : UInt64) : Daemon.Setting where
  environment := env
  directories := directories env
  spawn fs program args := (child fs env program args).map Prod.fst
  now := now

end Streamkeeper.StandIn
