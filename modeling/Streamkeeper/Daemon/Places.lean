import Streamkeeper.Host.Environment

/-!
Where the daemon keeps its socket, its options and its log unless it is told otherwise.

The socket and the log go to the temporary files if the host knows no directory for them; without a
directory of configuration files there is no usual file of options.
-/

namespace Streamkeeper.Daemon

open Host (Directories Environment)

/-- The directory and file names that belong to the daemon. -/
def ownName : String := "asset_stream_manager"

/-- The socket, in the runtime directory or among the temporary files. -/
def defaultSocket (env : Environment) (dirs : Directories) : String :=
  Host.Path.join (dirs.runtime?.getD env.temporaryDir) (ownName ++ ".sock")

/-- The usual file of options, below the directory of configuration files if there is one. -/
def defaultOptions? (dirs : Directories) : Option String :=
  dirs.configuration?.map fun dir =>
    Host.Path.join (Host.Path.join dir ownName) "assets_stream_manager.json"

/-- The log file, in the data directory or among the temporary files. -/
def defaultLog (env : Environment) (dirs : Directories) : String :=
  Host.Path.join (Host.Path.join (Host.Path.join (dirs.data?.getD env.temporaryDir) ownName) "logs")
    "assets_stream_manager.log"

/-- The address of a daemon in messages. -/
def endpoint (socket : String) : String :=
  socket

end Streamkeeper.Daemon
