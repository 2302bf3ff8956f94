import Streamkeeper.StandIn.Shell.Script
import Streamkeeper.Table

/-!
Reading a script: characters, tokens and the texts that follow commands.

A backslash before a line end joins two lines, except between single quotes, so most reading goes
through `peek`, which leaves such pairs out.  A token that was read can be put back.
-/

namespace Streamkeeper.StandIn.Shell

/-- What a redirection operator asks for. -/
inductive Operator where
  | file (opening : Opening)
  | duplicate
  | document (stripTabs : Bool)
deriving Repr, DecidableEq

/-- A unit of a script. -/
inductive Token where
  | finish
  | newline
  | operator (s : String)
  | redirection (fd : Nat) (o : Operator)
  /-- A word, and whether a part of it was quoted. -/
  | word (w : Word) (quoted : Bool)
  | keyword (s : String)

namespace Token

/-- A token as messages show it. -/
def text : Token → String
  | .finish => "end of file"
  | .newline => "newline"
  | .operator s => "\"" ++ s ++ "\""
  | .redirection _ _ => "redirection"
  | .word _ _ => "word"
  | .keyword s => "\"" ++ s ++ "\""

/-- The words that have a meaning of their own where a command may start. -/
def keywords : List String :=
  ["!", "case", "do", "done", "elif", "else", "esac", "fi", "for", "if", "in", "then", "until",
    "while", "\x7b", "\x7d"]

/-- Is the token this operator? -/
def isOperator (s : String) : Token → Bool
  | .operator o => o == s
  | _ => false

/-- Is the token this keyword? -/
def isKeyword (s : String) : Token → Bool
  | .keyword k => k == s
  | _ => false

/-- Is it the end of a line? -/
def isNewline : Token → Bool
  | .newline => true
  | _ => false

/-- Does a list of commands end before the token? -/
def endsList : Token → Bool
  | .finish => true
  | .operator s => s == ")" || s == ";;"
  | .keyword s => ["do", "done", "elif", "else", "esac", "fi", "then", "\x7d"].contains s
  | _ => false

end Token

/-- A text that is to follow the command that asks for it. -/
structure Awaited where
  id : DocumentId
  delimiter : List Char
  stripTabs : Bool
  expands : Bool

/-- How far the reading of a script has come. -/
structure Reading where
  rest : List Char
  line : Nat
  /-- The token that was read last. -/
  token : Token
  /-- Was that token put back? -/
  putBack : Bool
  awaited : List Awaited
  documents : List (DocumentId × Word)
  nextDocument : DocumentId
  aliases : Table String (List Char)
  /-- The aliases that are being expanded, each with the length of what follows its text. -/
  expanding : List (String × Nat)

/-- Reading a script from its first line on. -/
def Reading.ofText (text : List Char) (aliases : Table String (List Char))
    (nextDocument : DocumentId) : Reading where
  rest := text
  line := 1
  token := .newline
  putBack := false
  awaited := []
  documents := []
  nextDocument := nextDocument
  aliases := aliases
  expanding := []

/-- A step of reading, which may fail. -/
abbrev Reader := StateT Reading (Except ScriptError)

namespace Reader

/-- Reports what is wrong on the current line. -/
def fail {α : Type} (message : String) : Reader α := do
  throw ⟨(← get).line, "Syntax error: " ++ message⟩

/-- Drops joints between lines, and counts them. -/
def dropJoints : List Char → Nat → List Char × Nat
  | '\\' :: '\n' :: cs, n => dropJoints cs (n + 1)
  | cs, n => (cs, n)

/-- The next character. -/
def peek : Reader (Option Char) := do
  let r ← get
  let (rest, joints) := dropJoints r.rest 0
  set { r with rest := rest, line := r.line + joints }
  return rest.head?

/-- The next character where lines are not joined. -/
def peekRaw : Reader (Option Char) := do
  return (← get).rest.head?

/-- Takes the next character away. -/
def advance : Reader Unit :=
  modify fun r => { r with rest := r.rest.tail }

/-- Takes a line end away. -/
def advanceLine : Reader Unit :=
  modify fun r => { r with rest := r.rest.tail, line := r.line + 1 }

/-- Takes the next character if it is this one. -/
def takeIf (c : Char) : Reader Bool := do
  if (← peek) = some c then
    advance
    return true
  else return false

/-- Takes characters as long as they belong to a class. -/
def takeWhile (p : Char → Bool) : (fuel : Nat) → Reader (List Char)
  | 0 => pure []
  | fuel + 1 => do
    match ← peek with
    | some c =>
      if p c then
        advance
        return c :: (← takeWhile p fuel)
      else return []
    | none => return []

/-- More than there are characters. -/
def enough : Reader Nat := do
  return (← get).rest.length + 2

/-- Reads another text for a while, from the line `line` on. -/
def within {α : Type} (text : List Char) (line : Nat) (p : Reader α) : Reader α := do
  let outer ← get
  set { outer with rest := text, line := line, awaited := [], putBack := false, expanding := [] }
  let a ← p
  modify fun inner =>
    { outer with documents := inner.documents, nextDocument := inner.nextDocument, putBack := false }
  return a

end Reader

end Streamkeeper.StandIn.Shell
