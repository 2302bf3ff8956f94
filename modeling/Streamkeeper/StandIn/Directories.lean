import Streamkeeper.Host.Environment

/-!
The directories of a user, as the environment variables name them.

A variable counts only when it holds an absolute path.  Without it the directory lies below the
user's home, and the directory of a login is unknown.
-/

namespace Streamkeeper.StandIn

open Host (Directories Environment)

/-- A variable that holds an absolute path. -/
def absolute? (env : Environment) (name : String) : Option String :=
  (Table.get? env name).filter Host.Path.isAbsolute

/-- The user's home: the variable, or the home of the administrator. -/
def home (env : Environment) : String :=
  (env.nonEmpty? "HOME").getD "/root"

/-- The directories that the variables name. -/
def directories (env : Environment) : Directories where
  configuration? := (absolute? env "XDG_CONFIG_HOME").getD (Host.Path.join (home env) ".config")
  data? := (absolute? env "XDG_DATA_HOME").getD (Host.Path.join (home env) ".local/share")
  runtime? := absolute? env "XDG_RUNTIME_DIR"

end Streamkeeper.StandIn
