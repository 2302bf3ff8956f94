import Streamkeeper.Text.Blank

/-!
Quoted words of a command line.

A word that is empty, or holds a blank, a double quote or a backslash, is written between double
quotes, and inside them a backslash stands before every double quote and every backslash.  Any other
word is written as it is, so the words of a line can be told apart again.
-/

namespace Streamkeeper.Text.Quoted

/-- Puts a backslash before every double quote and every backslash. -/
def escape : List Char → List Char
  | [] => []
  | c :: cs => if c = '"' ∨ c = '\\' then '\\' :: c :: escape cs else c :: escape cs

/-- A word between double quotes. -/
def encode (cs : List Char) : List Char :=
  '"' :: (escape cs ++ ['"'])

/-- Must the word stand between quotes? -/
def isNeeded (cs : List Char) : Bool :=
  cs.isEmpty || cs.any fun c => isBlank c || c = '"' || c = '\\'

/-- A word as it stands on a command line. -/
def word (cs : List Char) : List Char :=
  if isNeeded cs then encode cs else cs

/-- The words of a command line, each with a space before it. -/
def words (args : List (List Char)) : List Char :=
  args.flatMap fun a => ' ' :: word a

end Streamkeeper.Text.Quoted
