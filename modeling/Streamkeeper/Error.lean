import Streamkeeper.Execution.Error
import Streamkeeper.Provisioning.Output
import Streamkeeper.Status
import Streamkeeper.Decimal.Digits

/-!
Why a request failed.

Every error has a sentence and a status code.  The code follows from the cause alone; an error that
the session registry reports keeps the code it came with.
-/

namespace Streamkeeper

/-- Why a request failed. -/
inductive Error where
  | invalidArgument (text : String)
  | notFound (text : String)
  | failedPrecondition (text : String)
  /-- The tool could not be started. -/
  | processStart (tool : String) (cause : ProcessError)
  /-- The tool did not run to its end. -/
  | processRun (tool : String) (cause : ProcessError)
  /-- The tool reported failure. -/
  | processExit (tool : String) (code : Int)
  /-- The tool's output lacks a field. -/
  | outputParse (field : Provisioning.OutputField) (output : String)
  /-- The session registry refused. -/
  | registry (code : StatusCode) (text : String)
  | io (cause : Host.IoError)
deriving Repr, DecidableEq

namespace Error

/-- A gamelet name that is no resource name. -/
def badName (name : String) : Error :=
  .invalidArgument s!"Failed to parse instance name '{name}'"

/-- A directory that cannot be streamed. -/
def badDirectory (directory : String) : Error :=
  .failedPrecondition
    s!"Workstation directory '{directory}' does not exist or is not a directory"

/-- An instance that no session streams to. -/
def noSession (instanceId : String) : Error :=
  .notFound s!"No session for instance id '{instanceId}' found"

/-- The sentence that reports an error. -/
def message : Error → String
  | .invalidArgument text => text
  | .notFound text => text
  | .failedPrecondition text => text
  | .processStart tool cause => s!"Failed to start {tool} process: {cause.message}"
  | .processRun tool cause => s!"Failed to run {tool} process: {cause.message}"
  | .processExit tool code => s!"{tool} process exited with code {Decimal.intText code}"
  | .outputParse field output =>
    s!"Failed to parse {field.text} from ggp ssh init response\n{output}"
  | .registry _ text => text
  | .io cause => cause.message

/-- The status code of an error.  A tool that is not installed was looked up in vain; that is no
failure of the service. -/
def code : Error → StatusCode
  | .invalidArgument _ => .invalidArgument
  | .notFound _ => .notFound
  | .failedPrecondition _ => .failedPrecondition
  | .processStart _ cause => if cause.isMissingProgram then .notFound else .internal
  | .processRun _ _ => .internal
  | .processExit _ _ => .internal
  | .outputParse _ _ => .internal
  | .registry code _ => code
  | .io _ => .internal

end Error

/-- The status code of a result: `ok` on success. -/
def resultCode {α : Type} : Except Error α → StatusCode
  | .ok _ => .ok
  | .error e => e.code

end Streamkeeper
