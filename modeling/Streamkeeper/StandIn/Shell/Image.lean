import Streamkeeper.StandIn.Shell.State

/-!
What a file is when it is run.

A program of the host runs as itself.  A file that begins with the name of an interpreter is run by it,
and the interpreter may be such a file too, for a bounded number of times.
-/

namespace Streamkeeper.StandIn.Shell

open Host (FileSystem Node OsError)

/-- A program of the host with its arguments, its name first. -/
structure Image where
  tool : String
  arguments : List (List Char)
deriving Repr, DecidableEq

/-- The first line of a file that names another program to run it. -/
structure Interpreter where
  path : List Char
  argument : Option (List Char)
deriving Repr, DecidableEq

namespace Interpreter

/-- The part of a file that is looked at. -/
def windowSize : Nat := 256

/-- Blanks between the words of the line. -/
def isBlank (c : Char) : Bool :=
  c == ' ' || c == '\t'

/-- What ends a word of the line. -/
def endsWord (c : Char) : Bool :=
  isBlank c || c == '\x00'

/-- The line that the window holds, if the window is long enough for its first word. -/
def line? (window : List Char) : Option (List Char) :=
  let body := window.drop 2
  if body.contains '\n' then some (body.takeWhile (· != '\n'))
  else
    let word := (body.dropWhile isBlank).dropLast
    if word.any endsWord then some body.dropLast else none

/-- The interpreter that a file names. -/
def ofFile? (content : Octets) : Option Interpreter := do
  let front := ofOctets (content.take windowSize)
  let window := front ++ List.replicate (windowSize - front.length) '\x00'
  if window.take 2 ≠ ['#', '!'] then none
  else
    let line := (((← line? window).reverse.dropWhile isBlank).reverse).dropWhile isBlank
    let path := line.takeWhile fun c => !endsWord c
    let rest := line.drop path.length
    let argument := match rest with
      | '\x00' :: _ => []
      | _ => (rest.dropWhile isBlank).takeWhile (· != '\x00')
    if path.isEmpty then none
    else some ⟨path, if argument.isEmpty then none else some argument⟩

end Interpreter

namespace Call

/-- The file at a path, if it may be run. -/
def executable (fs : FileSystem) (path : List Char) : Except OsError Node :=
  match fs.stat (toName path) with
  | .error (.os e) => .error e
  | .error _ => .error .noEntry
  | .ok (.tool name) => .ok (.tool name)
  | .ok (.file content true) => .ok (.file content true)
  | .ok _ => .error .permissionDenied

/-- The number of interpreters that may run each other. -/
def interpreterLimit : Nat := 5

/-- What a call runs, through at most `depth` interpreters. -/
def image (fs : FileSystem) : (depth : Nat) → Call → Except OsError Image
  | depth, c => do
    match ← executable fs c.path with
    | .tool name => return ⟨name, c.arguments⟩
    | .file content _ =>
      match Interpreter.ofFile? content, depth with
      | none, _ => throw .execFormat
      | some i, 0 =>
        let _ ← executable fs i.path
        throw .tooManyLinks
      | some i, depth + 1 =>
        image fs depth ⟨i.path, i.path :: (i.argument.toList ++ c.path :: c.arguments.tail)⟩
    | _ => throw .permissionDenied

end Call

end Streamkeeper.StandIn.Shell
