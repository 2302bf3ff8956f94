import Streamkeeper.StandIn.Shell.Tool.Table

/-!
The files that every host has: the script interpreter and the tools, the list of users, the devices
that swallow output, refuse it or give endless zeros, and a place for temporary files.
-/

namespace Streamkeeper.StandIn

open Host

/-- The list of users. -/
def users : Octets :=
  octets "root:x:0:0:root:/root:/bin/sh\n"

/-- The names of the host's programs. -/
def toolNames : List String :=
  "sh" :: "env" :: Shell.Tool.table.map Prod.fst

/-- The host's programs in a directory. -/
def toolsIn (directory : Place) : Table Place Node :=
  toolNames.map fun name => (directory ++ [name], .tool name)

/-- The directories and files of every host. -/
def standardNodes : Table Place Node :=
  [(["bin"], .directory), (["dev"], .directory), (["dev", "full"], .full), (["dev", "null"], .sink),
    (["dev", "zero"], .zeros), (["etc"], .directory), (["etc", "passwd"], .file users false),
    (["root"], .directory), (["tmp"], .directory), (["usr"], .directory),
    (["usr", "bin"], .directory)] ++ toolsIn ["bin"] ++ toolsIn ["usr", "bin"]

/-- A host with an empty working directory below the root. -/
def standardFiles (directory : String) : FileSystem where
  nodes := standardNodes ++ [([directory], .directory)]
  workingDirectory := [directory]

/-- The working directory as a path. -/
def workingPath (fs : FileSystem) : String :=
  "/" ++ Path.ofNames fs.workingDirectory

end Streamkeeper.StandIn
