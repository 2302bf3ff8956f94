/-!
Paths as texts.

A path is a list of components between slashes.  Empty components, and dots after the first
component, carry no meaning; everything here reads a path through its components, and only `join`
keeps the text as it is.
-/

namespace Streamkeeper.Host.Path

/-- Does a path start at the root? -/
def isAbsolute (path : String) : Bool :=
  path.toList.head? == some '/'

/-- The components that carry a meaning after the root, with dots left out. -/
def names (path : String) : List String :=
  ((path.toList.splitOn '/').map String.ofList).filter fun name => name != "" && name != "."

/-- Does a relative path start with a dot of its own? -/
def startsWithDot (path : String) : Bool :=
  (path.toList.splitOn '/').head? == some ['.']

/-- Does a path end with a slash? -/
def endsWithSlash (path : String) : Bool :=
  path.toList.getLast? == some '/'

/-- Puts a relative path after another path. -/
def join (left right : String) : String :=
  if left = "" || endsWithSlash left then left ++ right else left ++ "/" ++ right

/-- Components as a path. -/
def ofNames (names : List String) : String :=
  String.intercalate "/" names

/-- The last component, unless it goes up or the path has none. -/
def fileName? (path : String) : Option String :=
  match (names path).getLast? with
  | some name => if name = ".." then none else some name
  | none => none

/-- The path without its last component; the root and the empty path have none. -/
def parent? (path : String) : Option String :=
  let front := (names path).dropLast
  if isAbsolute path then
    if (names path).isEmpty then none else some ("/" ++ ofNames front)
  else if startsWithDot path then
    if (names path).isEmpty then some "" else some (ofNames ("." :: front))
  else if (names path).isEmpty then none
  else some (ofNames front)

/-- A path made absolute from a working directory.  Two leading slashes, climbing components and a
slash at the end are kept; the empty path stays empty. -/
def absolute (directory path : String) : String :=
  let root :=
    if isAbsolute path then
      if path.startsWith "//" && !path.startsWith "///" then "//" else "/"
    else directory
  if path = "" then ""
  else
    let whole := (names path).foldl join root
    if endsWithSlash path && !endsWithSlash whole then whole ++ "/" else whole

end Streamkeeper.Host.Path
