import Streamkeeper.StandIn.Shell.Image

/-!
Finding programs by their names.

A name with a slash is a path.  Any other name is looked for in one directory after the other.
-/

namespace Streamkeeper.StandIn.Shell.Search

open Host (FileSystem OsError)

/-- The directories in which programs are when nothing else is said. -/
def standardPath : List Char :=
  "/usr/local/sbin:/usr/local/bin:/usr/sbin:/usr/bin:/sbin:/bin".toList

/-- The directories of a path list. -/
def directories (path : List Char) : List (List Char) :=
  path.splitOn ':'

/-- A name in a directory; no directory means the working directory. -/
def inDirectory (directory name : List Char) : List Char :=
  if directory.isEmpty then name else directory ++ '/' :: name

/-- The words for a program that cannot be run. -/
def reason : OsError → String
  | .noEntry => "not found"
  | .notADirectory => "not found"
  | e => e.text

/-- The outcome of a program that cannot be run. -/
def status : OsError → Nat
  | .noEntry => 127
  | .notADirectory => 127
  | .tooManyLinks => 127
  | .nameTooLong => 127
  | _ => 126

/-- Looks for a file, and remembers the gravest refusal on the way. -/
def inDirectories (fs : FileSystem) (name : List Char) (refusal : OsError) :
    List (List Char) → Except OsError (List Char)
  | [] => .error refusal
  | d :: ds =>
    let path := inDirectory d name
    match fs.stat (toName path) with
    | .ok (.tool _) => .ok path
    | .ok (.file _ _) => .ok path
    | .ok _ => inDirectories fs name .permissionDenied ds
    | .error (.os .noEntry) => inDirectories fs name refusal ds
    | .error (.os .notADirectory) => inDirectories fs name refusal ds
    | .error (.os e) => inDirectories fs name e ds
    | .error _ => inDirectories fs name refusal ds

/-- The path of the file that a name stands for. -/
def program (fs : FileSystem) (path name : List Char) : Except OsError (List Char) :=
  if name.contains '/' then .ok name else inDirectories fs name .noEntry (directories path)

/-- A directory that holds no programs. -/
def noPath : List Char :=
  "/nowhere".toList

/-- The directories in which a script looks for programs: none if it took them away. -/
def pathOf (s : State) : List Char :=
  (s.value? "PATH").getD noPath

end Streamkeeper.StandIn.Shell.Search
