/-!
Blank characters, and trimming by a class of characters.

Three classes of blanks are in use and they differ: `isBlank` is the property `White_Space` of the
character database, `isAsciiBlank` its printing ASCII part, `isOutputSpace` the six ASCII characters
that separate words in the output of command line tools.  Trimming takes its class as an argument,
so one set of lemmas serves all three.
-/

namespace Streamkeeper.Text

/-- The characters with the property `White_Space`. -/
def isBlank (c : Char) : Bool :=
  let n := c.toNat
  (0x9 ≤ n && n ≤ 0xD) || n == 0x20 || n == 0x85 || n == 0xA0 || n == 0x1680 ||
    (0x2000 ≤ n && n ≤ 0x200A) || n == 0x2028 || n == 0x2029 || n == 0x202F || n == 0x205F ||
    n == 0x3000

/-- Space, tab, line feed, form feed and carriage return. -/
def isAsciiBlank (c : Char) : Bool :=
  c == ' ' || c == '\t' || c == '\n' || c == '\x0c' || c == '\r'

/-- The ASCII blanks and the vertical tab. -/
def isOutputSpace (c : Char) : Bool :=
  isAsciiBlank c || c == '\x0b'

/-- Drops the longest beginning made of characters of the class. -/
def trimStart (p : Char → Bool) (cs : List Char) : List Char :=
  cs.dropWhile p

/-- Drops the longest end made of characters of the class. -/
def trimEnd (p : Char → Bool) (cs : List Char) : List Char :=
  (cs.reverse.dropWhile p).reverse

/-- Drops the characters of the class at both ends. -/
def trim (p : Char → Bool) (cs : List Char) : List Char :=
  trimEnd p (trimStart p cs)

@[simp] theorem trim_nil (p : Char → Bool) : trim p [] = [] := rfl

end Streamkeeper.Text
