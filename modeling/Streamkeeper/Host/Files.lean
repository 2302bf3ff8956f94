import Streamkeeper.Host.Error
import Streamkeeper.Host.Path
import Streamkeeper.Table
import Streamkeeper.Text.Utf8

/-!
File systems.

A file system says what lies at every place, a place being the list of names from the root.  A path
is followed from a working directory name by name: a name is looked up in a directory only, two dots
go up, and a symbolic link is replaced by its target, for a bounded number of links.  Following a path
ends at something that is there, or at a free name in a directory that is there, or is refused.
-/

namespace Streamkeeper.Host

/-- The names that lead from the root to a place. -/
abbrev Place := List String

/-- What lies at a place. -/
inductive Node where
  | directory
  | file (content : Octets) (executable : Bool)
  | socket
  | link (target : String)
  /-- A program that the host provides. -/
  | tool (name : String)
  /-- A source of endless zero octets. -/
  | zeros
  /-- Swallows what is written, and has nothing to read. -/
  | sink
  /-- Has no room for what is written, and is read like `zeros`. -/
  | full
deriving Repr, DecidableEq

/-- What lies at every place, and where relative paths start. -/
structure FileSystem where
  nodes : Table Place Node
  workingDirectory : Place
deriving Repr, DecidableEq

/-- Where a path leads: to a node, or to a free name. -/
inductive Spot where
  | taken (place : Place) (node : Node)
  | free (place : Place)
deriving Repr, DecidableEq

/-- The place to which a path leads. -/
def Spot.place : Spot → Place
  | .taken place _ => place
  | .free place => place

namespace FileSystem

/-- The longest name of a directory entry, in octets. -/
def nameLimit : Nat := 255

/-- The longest path, in octets. -/
def pathLimit : Nat := 4095

/-- The number of links that a path may lead through. -/
def linkLimit : Nat := 40

/-- The node at a place; the root is a directory. -/
def node? (fs : FileSystem) (place : Place) : Option Node :=
  if place.isEmpty then some .directory else fs.nodes.get? place

/-- Puts a node at a place. -/
def put (fs : FileSystem) (place : Place) (node : Node) : FileSystem :=
  { fs with nodes := fs.nodes.set place node }

/-- Takes the node at a place away. -/
def clear (fs : FileSystem) (place : Place) : FileSystem :=
  { fs with nodes := fs.nodes.remove place }

/-! ### Following paths -/

/-- How a walk over names ends: at a spot, or at a link with a target and the names after it. -/
inductive Walk where
  | done (spot : Spot)
  | link (directory : Place) (target : String) (rest : List String)

/-- Follows names up to the first link.  A link at the end is followed only if `follow` says so. -/
def walk (fs : FileSystem) (follow : Bool) (here : Place) : List String → Except OsError Walk
  | [] =>
    match fs.node? here with
    | some node => .ok (.done (.taken here node))
    | none => .error .noEntry
  | name :: rest =>
    if fs.node? here ≠ some .directory then .error .notADirectory
    else if name = ".." then walk fs follow here.dropLast rest
    else if nameLimit < octetCount name then .error .nameTooLong
    else
      let next := here ++ [name]
      match fs.node? next with
      | none => if rest.isEmpty then .ok (.done (.free next)) else .error .noEntry
      | some (.link target) =>
        if rest.isEmpty && !follow then .ok (.done (.taken next (.link target)))
        else .ok (.link here target rest)
      | some _ => walk fs follow next rest

/-- Where the names of a path start. -/
def startOf (here : Place) (path : String) : Place :=
  if Path.isAbsolute path then [] else here

/-- Follows names through at most `links` links. -/
def follow (fs : FileSystem) (followLast : Bool) :
    (links : Nat) → (here : Place) → (names : List String) → Except OsError Spot
  | links, here, names =>
    match walk fs followLast here names with
    | .error e => .error e
    | .ok (.done spot) => .ok spot
    | .ok (.link directory target rest) =>
      match links with
      | 0 => .error .tooManyLinks
      | links + 1 =>
        follow fs followLast links (startOf directory target) (Path.names target ++ rest)

/-- Does a path say by its end that it leads to a directory? -/
def wantsDirectory (path : String) : Bool :=
  match (path.toList.splitOn '/').getLast? with
  | some name => path != "" && (name == [] || name == ['.'])
  | none => false

/-- The spot that a path leads to. -/
def locate (fs : FileSystem) (followLast : Bool) (path : String) : Except IoError Spot :=
  if path.toList.contains '\x00' then .error .nulInPath
  else if path = "" then .error (.os .noEntry)
  else if pathLimit < octetCount path then .error (.os .nameTooLong)
  else
    let last := followLast || wantsDirectory path
    match follow fs last linkLimit (startOf fs.workingDirectory path) (Path.names path) with
    | .error e => .error (.os e)
    | .ok (.taken place node) =>
      if wantsDirectory path && node != .directory then .error (.os .notADirectory)
      else .ok (.taken place node)
    | .ok spot => .ok spot

/-! ### Questions -/

/-- The node that a path leads to. -/
def stat (fs : FileSystem) (path : String) : Except IoError Node :=
  match fs.locate true path with
  | .error e => .error e
  | .ok (.taken _ node) => .ok node
  | .ok (.free _) => .error (.os .noEntry)

/-- Does a path lead to something? -/
def isThere (fs : FileSystem) (path : String) : Bool :=
  (fs.stat path).isOk

/-- Does a path lead to a directory? -/
def isDirectory (fs : FileSystem) (path : String) : Bool :=
  match fs.stat path with
  | .ok .directory => true
  | _ => false

/-- The names in a directory, in no particular order. -/
def entries (fs : FileSystem) (directory : Place) : List String :=
  fs.nodes.filterMap fun e =>
    match e.1.reverse with
    | name :: front => if front.reverse = directory then some name else none
    | [] => none

/-- The names in the directory that a path leads to; none if there is none. -/
def list (fs : FileSystem) (path : String) : List String :=
  match fs.locate true path with
  | .ok (.taken place .directory) => fs.entries place
  | _ => []

/-- The content of the file at a path. -/
def read (fs : FileSystem) (path : String) : Except IoError Octets :=
  match fs.stat path with
  | .error e => .error e
  | .ok (.file content _) => .ok content
  | .ok .sink => .ok []
  | .ok .socket => .error (.os .noDevice)
  | .ok (.tool _) => .error .notText
  | .ok _ => .error (.os .isADirectory)

/-! ### Changes -/

/-- The components of a path that are not empty, dots among them. -/
def components (path : String) : List String :=
  ((path.toList.splitOn '/').map String.ofList).filter (· != "")

/-- The spot of a new entry in a directory that is there; dots lead to an entry that is there too. -/
def spotIn (fs : FileSystem) (directory : Place) (name : String) : Except IoError Spot :=
  if name = "." ∨ name = ".." then .ok (.taken directory .directory)
  else if nameLimit < octetCount name then .error (.os .nameTooLong)
  else
    let place := directory ++ [name]
    match fs.node? place with
    | some node => .ok (.taken place node)
    | none => .ok (.free place)

/-- The spot where a path would make a new entry: what stands before the last component has to be a
directory, a link at the end is not followed, and slashes at the end carry no meaning. -/
def spotOfNew (fs : FileSystem) (path : String) : Except IoError Spot :=
  if path.toList.contains '\x00' then .error .nulInPath
  else if path = "" then .error (.os .noEntry)
  else if pathLimit < octetCount path then .error (.os .nameTooLong)
  else
    match (components path).getLast? with
    | none => .ok (.taken [] .directory)
    | some name =>
      let front := (components path).dropLast.filter (· != ".")
      match follow fs true linkLimit (startOf fs.workingDirectory path) front with
      | .error e => .error (.os e)
      | .ok (.taken place .directory) => fs.spotIn place name
      | .ok (.taken _ _) => .error (.os .notADirectory)
      | .ok (.free _) => .error (.os .noEntry)

/-- Makes a directory. -/
def makeDirectory (fs : FileSystem) (path : String) : Except IoError FileSystem :=
  match fs.spotOfNew path with
  | .error e => .error e
  | .ok (.taken _ _) => .error (.os .fileExists)
  | .ok (.free place) => .ok (fs.put place .directory)

/-- Makes a directory unless it is there. -/
def ensureDirectory (fs : FileSystem) (path : String) : Except IoError FileSystem :=
  match fs.makeDirectory path with
  | .ok fs => .ok fs
  | .error e => if e = .os .fileExists ∧ fs.isDirectory path then .ok fs else .error e

/-- The directories that have to be made for `path`, the innermost first: from `path` upwards as long
as the parent is missing. -/
def missingDirectories (fs : FileSystem) : (fuel : Nat) → String → Except IoError (List String)
  | 0, _ => .ok []
  | fuel + 1, path =>
    match Path.parent? path with
    | none => .ok []
    | some parent =>
      if path = "" then .ok []
      else
        match fs.makeDirectory path with
        | .ok _ => .ok [path]
        | .error e =>
          if e.kind = .notFound then (missingDirectories fs fuel parent).map (path :: ·)
          else if e = .os .fileExists ∧ fs.isDirectory path then .ok []
          else .error e

/-- Makes directories one after the other, as far as it goes. -/
def ensureAll (fs : FileSystem) : List String → FileSystem × Except IoError Unit
  | [] => (fs, .ok ())
  | path :: rest =>
    match fs.ensureDirectory path with
    | .ok fs => ensureAll fs rest
    | .error e => (fs, .error e)

/-- Makes a directory and all missing directories above it. -/
def makeDirectories (fs : FileSystem) (path : String) : FileSystem × Except IoError Unit :=
  match fs.missingDirectories (path.length + 1) path with
  | .error e => (fs, .error e)
  | .ok paths => fs.ensureAll paths.reverse

/-- Opens a file for appending, and makes an empty one where nothing is. -/
def openForAppending (fs : FileSystem) (path : String) : Except IoError FileSystem :=
  match fs.locate true path with
  | .error e => .error e
  | .ok (.taken _ (.file _ _)) => .ok fs
  | .ok (.taken _ (.tool _)) => .ok fs
  | .ok (.taken _ .sink) => .ok fs
  | .ok (.taken _ .zeros) => .ok fs
  | .ok (.taken _ .full) => .ok fs
  | .ok (.taken _ .socket) => .error (.os .noDevice)
  | .ok (.taken _ _) => .error (.os .isADirectory)
  | .ok (.free place) =>
    if wantsDirectory path then .error (.os .isADirectory) else .ok (fs.put place (.file [] false))

/-- Removes what a path leads to, unless it is a directory. -/
def unlink (fs : FileSystem) (path : String) : Except IoError FileSystem :=
  match fs.locate false path with
  | .error e => .error e
  | .ok (.free _) => .error (.os .noEntry)
  | .ok (.taken _ .directory) => .error (.os .isADirectory)
  | .ok (.taken place _) => .ok (fs.clear place)

/-- Removes what a path leads to, if that can be done. -/
def unlinkAnyway (fs : FileSystem) (path : String) : FileSystem :=
  match fs.unlink path with
  | .ok fs => fs
  | .error _ => fs

end FileSystem

end Streamkeeper.Host
