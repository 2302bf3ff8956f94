import Streamkeeper.Text.Utf8

/-!
Lines of octets.

A line ends with a line feed, which belongs to it, or with the octets.  Its text leaves the line feed
out, and a carriage return right before it.
-/

namespace Streamkeeper.Text

/-- A line, without the line feed that ends it. -/
structure Line where
  content : Octets
  terminated : Bool
deriving Repr, DecidableEq

/-- The octet that ends a line. -/
def lineFeed : UInt8 := 10

/-- Splits octets into lines; every round takes at least one octet. -/
def linesFrom : (fuel : Nat) → Octets → List Line
  | 0, _ => []
  | _, [] => []
  | fuel + 1, bytes =>
    match bytes.dropWhile (· != lineFeed) with
    | [] => [⟨bytes, false⟩]
    | _ :: rest => ⟨bytes.takeWhile (· != lineFeed), true⟩ :: linesFrom fuel rest

/-- The lines of octets. -/
def lines (bytes : Octets) : List Line :=
  linesFrom bytes.length bytes

namespace Line

/-- A line with the line feed that ends it. -/
def octets (l : Line) : Octets :=
  if l.terminated then l.content ++ [lineFeed] else l.content

/-- The characters of a line without its end. -/
def withoutEnd (cs : List Char) : List Char :=
  if cs.getLast? = some '\n' then
    if cs.dropLast.getLast? = some '\r' then cs.dropLast.dropLast else cs.dropLast
  else cs

/-- The text of a line. -/
def text? (l : Line) : Except Utf8.Flaw (List Char) :=
  (Utf8.decode? l.octets).map withoutEnd

end Line

end Streamkeeper.Text
