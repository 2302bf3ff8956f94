import Streamkeeper.Execution.Error
import Streamkeeper.Text.Utf8

/-!
How a process behaves, as its caller sees it.
-/

namespace Streamkeeper.Execution

/-- A run of a process: whether it starts, the chunks of its standard output in order, whether it
runs to its end, and the exit code. -/
structure Behaviour where
  startFailure : Option ProcessError
  chunks : List Octets
  runFailure : Option ProcessError
  exitCode : Int
deriving Repr, DecidableEq

end Streamkeeper.Execution
