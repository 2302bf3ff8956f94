import Streamkeeper.StandIn.Shell.Characters

/-!
Scripts of the command language.

A word is a list of parts: characters that remember whether they were quoted, the quotation marks
around them, and expansions.  Words, commands and redirections hold each other, because a word may
hold a nested script.
-/

namespace Streamkeeper.StandIn.Shell

/-- What is done with the value of a parameter. -/
inductive Treatment where
  | plain
  | length
  /-- Another word stands in. -/
  | default
  /-- Another word stands in, and becomes the value. -/
  | assign
  /-- Another word stands in where there is a value. -/
  | alternative
  /-- Without a value the script ends with a message. -/
  | demand
  /-- A beginning that matches a pattern is dropped. -/
  | dropStart (longest : Bool)
  /-- An end that matches a pattern is dropped. -/
  | dropEnd (longest : Bool)
  /-- Nothing that is known. -/
  | unknown
deriving Repr, DecidableEq

/-- How a file is opened by a redirection. -/
inductive Opening where
  | input
  | output
  /-- As `output`, also where existing files are protected. -/
  | overwrite
  | append
  | inputOutput
deriving Repr, DecidableEq

/-- The number of a text that follows a command in the script. -/
abbrev DocumentId := Nat

mutual

/-- A part of a word. -/
inductive Part where
  | char (c : Char) (quoted : Bool)
  /-- A quotation mark, which opens or closes. -/
  | mark
  /-- A parameter; `orEmpty` says whether an empty value counts as none. -/
  | parameter (name : String) (treatment : Treatment) (orEmpty : Bool) (word : List Part)
  | command (c : Option Command)
  | arithmetic (expression : List Part)

/-- A change of a file descriptor. -/
inductive Redirection where
  | file (fd : Nat) (opening : Opening) (path : List Part)
  /-- `fd` becomes what `other` is, or is closed. -/
  | duplicate (fd : Nat) (other : Option Nat)
  /-- `fd` becomes what the descriptor named by the word is. -/
  | duplicateNamed (fd : Nat) (other : List Part)
  /-- A text of the script is read. -/
  | document (fd : Nat) (id : DocumentId)

/-- A command.  `line` is the line of the script on which it stands. -/
inductive Command where
  | simple (line : Nat) (assignments : List (String × List Part)) (words : List (List Part))
      (redirections : List Redirection)
  | pipeline (inBackground : Bool) (commands : List Command)
  | not (c : Command)
  | both (left right : Command)
  | either (left right : Command)
  | sequence (left right : Command)
  | subshell (line : Nat) (c : Command) (redirections : List Redirection)
  | background (line : Nat) (c : Command) (redirections : List Redirection)
  | redirected (line : Nat) (c : Command) (redirections : List Redirection)
  | branch (condition yes : Command) (no : Option Command)
  | loop (wanted : Bool) (condition body : Command)
  | forEach (line : Nat) (name : String) (words : List (List Part)) (body : Command)
  | select (line : Nat) (subject : List Part)
      (branches : List (List (List Part) × Option Command))
  | function (name : String) (body : Command)

end

/-- A redirection whose words are expanded. -/
inductive Rewiring where
  | file (fd : Nat) (opening : Opening) (path : List Char)
  | duplicate (fd : Nat) (other : Option Nat)
  | document (fd : Nat) (id : DocumentId)

/-- A word before expansion. -/
abbrev Word := List Part

instance : Inhabited Command := ⟨.simple 0 [] [] []⟩

namespace Word

/-- The characters of a word without quotes and expansions. -/
def plain? : Word → Option (List Char)
  | [] => some []
  | .char c false :: rest => (plain? rest).map (c :: ·)
  | _ => none

/-- The characters of a word, quoted or not. -/
def characters (w : Word) : List Char :=
  w.filterMap fun
    | .char c _ => some c
    | _ => none

/-- Quoted characters as a word. -/
def ofQuoted (cs : List Char) : Word :=
  cs.map fun c => .char c true

/-- An assignment: a name, an equals sign, and the word after it. -/
def assignment? (w : Word) : Option (String × Word) :=
  let rec go (name : List Char) : Word → Option (String × Word)
    | .char c false :: rest =>
      if c = '=' then
        if isName name.reverse then some (String.ofList name.reverse, rest) else none
      else if isNameChar c then go (c :: name) rest
      else none
    | _ => none
  go [] w

/-- The word that stands for all arguments. -/
def allArguments : Word :=
  [.mark, .parameter "@" .plain false [], .mark]

end Word

/-- Why a script cannot be read. -/
structure ScriptError where
  line : Nat
  message : String
deriving Repr, DecidableEq

end Streamkeeper.StandIn.Shell
