import Streamkeeper.Host.Error

/-!
What can go wrong with an external process.
-/

namespace Streamkeeper

/-- Why an operation on a process failed; every cause carries the process's name. -/
inductive ProcessError where
  /-- It was waited for before it was started. -/
  | notStarted (name : String)
  /-- It was started again. -/
  | alreadyStarted (name : String)
  /-- It could not be spawned. -/
  | spawn (name : String) (cause : Host.IoError)
  /-- Waiting for it failed. -/
  | wait (name : String) (cause : Host.IoError)
  /-- Its output could not be read. -/
  | reader (name message : String)
  /-- The handler of its output refused a chunk. -/
  | handler (name message : String)
deriving Repr, DecidableEq

namespace ProcessError

/-- The sentence that reports an error. -/
def message : ProcessError → String
  | .notStarted name => s!"process '{name}' has not been started"
  | .alreadyStarted name => s!"process '{name}' is already running"
  | .spawn name cause => s!"failed to spawn '{name}': {cause.message}"
  | .wait name cause => s!"failed waiting for '{name}': {cause.message}"
  | .reader name message => s!"output reader for '{name}' failed: {message}"
  | .handler name message => s!"output handler for '{name}' rejected data: {message}"

/-- Was the program not there? -/
def isMissingProgram : ProcessError → Bool
  | .spawn _ cause => cause.kind == .notFound
  | _ => false

end ProcessError

end Streamkeeper
