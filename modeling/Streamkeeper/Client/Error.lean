import Streamkeeper.Error

/-!
Why a command failed.
-/

namespace Streamkeeper.Client

/-- Why a command failed. -/
inductive CommandError where
  | context (text : String)
  /-- The daemon reported an error. -/
  | daemon (code : StatusCode) (text : String)
  /-- Nobody listens at the endpoint. -/
  | notRunning (endpoint : String)
  | core (cause : Error)
  | io (cause : Host.IoError)
  /-- Talking to the daemon failed while doing this. -/
  | exchange (doing : String)
deriving Repr, DecidableEq

namespace CommandError

/-- The sentence that reports an error. -/
def message : CommandError → String
  | .context text => text
  | .daemon code text => s!"daemon returned {code.name}: {text}"
  | .notRunning endpoint => s!"daemon is not running at {endpoint}"
  | .core cause => cause.message
  | .io cause => cause.message
  | .exchange doing => doing

/-- The status code of an error. -/
def code : CommandError → StatusCode
  | .daemon code _ => code
  | .core cause => cause.code
  | .notRunning _ => .unavailable
  | .context _ => .internal
  | .io _ => .internal
  | .exchange _ => .internal

end CommandError

/-- The exit code of the program after a command. -/
def exitCode : Except CommandError Unit → UInt32
  | .ok _ => 0
  | .error _ => 1

end Streamkeeper.Client
