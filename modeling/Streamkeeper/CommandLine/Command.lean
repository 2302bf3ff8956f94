import Streamkeeper.Client.Envelope
import Streamkeeper.Origin

/-!
What a command line asks for.
-/

namespace Streamkeeper.CommandLine

/-- The options of the command that runs the daemon. -/
structure ServeArgs where
  config : Option String
  srcDir : Option String
  instanceIp : Option String
  instancePort : Option UInt16
  sdkDir : Option String
  logToStdout : Bool
deriving Repr, DecidableEq

/-- A command. -/
inductive Command where
  | serve (args : ServeArgs)
  | startSession (gameletName dir : String) (origin : Origin)
  | stopSession (gameletId : String)
  | status
  | shutdown
deriving Repr, DecidableEq

/-- A command with the options that every command has. -/
structure Invocation where
  verbosity : Nat
  format : Client.Format
  socket : Option String
  command : Command
deriving Repr, DecidableEq

end Streamkeeper.CommandLine
