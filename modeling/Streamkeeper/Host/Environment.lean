import Streamkeeper.Host.Path
import Streamkeeper.Table

/-!
What a host tells a program about its surroundings: the environment variables, and the directories
of the user.

The directory of temporary files is named by a variable.  The directories of a user are those that
the host knows, by rules of its own; each of them may be unknown.
-/

namespace Streamkeeper.Host

/-- The environment variables that are set. -/
abbrev Environment := Table String String

namespace Environment

/-- A variable, if it is set and not empty. -/
def nonEmpty? (env : Environment) (name : String) : Option String :=
  (Table.get? env name).filter (· != "")

/-- The directory of temporary files. -/
def temporaryDir (env : Environment) : String :=
  (Table.get? env "TMPDIR").getD "/tmp"

end Environment

/-- The directories of a user, as far as the host knows them. -/
structure Directories where
  /-- Where configuration files lie. -/
  configuration? : Option String
  /-- Where data files lie. -/
  data? : Option String
  /-- Where files lie that live as long as a login. -/
  runtime? : Option String
deriving Repr, DecidableEq

end Streamkeeper.Host
