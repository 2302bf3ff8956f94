import Streamkeeper.StandIn.Shell.Pattern
import Streamkeeper.Host.Files

/-!
Fields of expanded words.

An expanded word is a list of segments.  Only what an unquoted expansion gave is cut at the separators;
a quotation mark makes a field even when nothing else does, and quoted arguments are always kept apart.
A field with special characters stands for the names of the files that it fits, if there are any.
-/

namespace Streamkeeper.StandIn.Shell

open Host (FileSystem)

/-- A character of a field, and whether it was quoted. -/
abbrev Glyph := Char × Bool

/-- A piece of an expanded word. -/
inductive Segment where
  | fixed (g : Glyph)
  | mark
  /-- Characters that may be cut; the NUL character stands between arguments. -/
  | divisible (cs : List Char)
  /-- Arguments, each in a field of its own. -/
  | arguments (args : List (List Char))
deriving Repr, DecidableEq

namespace Segment

/-- Quoted characters. -/
def ofQuoted (cs : List Char) : List Segment :=
  cs.map fun c => .fixed (c, true)

/-- The characters of segments that are not cut. -/
def glyphs (ss : List Segment) : List Glyph :=
  ss.flatMap fun
    | .fixed g => [g]
    | .mark => []
    | .divisible cs => cs.map fun c => (c, false)
    | .arguments args => ([' '].intercalate args).map fun c => (c, true)

/-- The text of segments that are not cut. -/
def text (ss : List Segment) : List Char :=
  (glyphs ss).map (·.1)

/-- Fields while a word is being cut; everything is in reverse. -/
structure Cutting where
  fields : List (List Glyph)
  current : List Glyph
  /-- Is there a field even if it is empty? -/
  present : Bool

/-- Ends a field. -/
def Cutting.cut (c : Cutting) : Cutting :=
  ⟨c.current.reverse :: c.fields, [], false⟩

/-- Ends the last field, if there is one. -/
def Cutting.finish (c : Cutting) : List (List Glyph) :=
  (if c.present || !c.current.isEmpty then c.cut else c).fields.reverse

/-- The separators that carry no field between them. -/
def isBlankSeparator (c : Char) : Bool :=
  c == ' ' || c == '\t' || c == '\n' || c == '\x00'

/-- Cuts characters at the separators.  `skipping` is there right after a separator, and says whether
one that is no blank still belongs to it. -/
def divide (separators : List Char) : (skipping : Option Bool) → Cutting → List Char → Cutting
  | _, c, [] => c
  | skipping, c, x :: xs =>
    let isSeparator := x == '\x00' || separators.contains x
    let isBlank := isBlankSeparator x
    if !isSeparator then divide separators none { c with current := (x, false) :: c.current } xs
    else
      match skipping with
      | some beforeBlank =>
        if isBlank then divide separators (some beforeBlank) c xs
        else if beforeBlank then divide separators (some false) c xs
        else divide separators (some false) c.cut xs
      | none =>
        if isBlank && !c.present && c.current.isEmpty then divide separators none c xs
        else divide separators (some isBlank) c.cut xs

/-- Adds arguments, each of which makes a field. -/
def addArguments (c : Cutting) : List (List Char) → Cutting
  | [] => c
  | a :: rest =>
    let c := { c with current := (a.map fun x => (x, true)).reverse ++ c.current, present := true }
    match rest with
    | [] => c
    | _ => addArguments c.cut rest

/-- Adds a segment to the fields. -/
def addTo (separators : List Char) (c : Cutting) (s : Segment) : Cutting :=
  match s with
  | .fixed g => { c with current := g :: c.current }
  | .mark => { c with present := true }
  | .divisible cs => divide separators none c cs
  | .arguments args => addArguments c args

/-- The fields of an expanded word. -/
def fields (separators : List Char) (ss : List Segment) : List (List Glyph) :=
  (ss.foldl (addTo separators) ⟨[], [], false⟩).finish

end Segment

/-! ### Names of files -/

namespace Glob

/-- The text of glyphs. -/
def text (gs : List Glyph) : List Char :=
  gs.map (·.1)

/-- The text of glyphs as a name: a backslash before a character goes away. -/
def unescaped : List Glyph → List Char
  | ('\\', false) :: (c, _) :: rest => c :: unescaped rest
  | (c, _) :: rest => c :: unescaped rest
  | [] => []

/-- Splits at slashes. -/
def components (gs : List Glyph) : List (List Glyph) :=
  let (first, others) := gs.foldr (fun g (acc : List Glyph × List (List Glyph)) =>
    if g.1 = '/' then ([], acc.1 :: acc.2) else (g :: acc.1, acc.2)) ([], [])
  first :: others

/-- Does the pattern begin with a dot? -/
def beginsWithDot : List Glyph → Bool
  | ('\\', false) :: ('.', _) :: _ => true
  | ('.', _) :: _ => true
  | _ => false

/-- The names in a directory that a pattern fits.  Names that begin with a dot are only found by a
pattern that does so too. -/
def matching (fs : FileSystem) (directory : List Char) (gs : List Glyph) : List (List Char) :=
  let path := if directory.isEmpty then "." else toName directory
  let names := fs.list path
  let names := if fs.isDirectory path then "." :: ".." :: names else names
  let pattern := Pattern.ofText gs
  (names.map ofString).filter fun n =>
    (n.head? != some '.' || beginsWithDot gs) && Pattern.fits pattern n

/-- Is there something at a path, be it only a link? -/
def isThere (fs : FileSystem) (path : List Char) : Bool :=
  match fs.locate false (toName path) with
  | .ok (.taken _ _) => true
  | _ => false

/-- The paths that components fit, behind a path. -/
def paths (fs : FileSystem) (front : List Char) : List (List Glyph) → List (List Char)
  | [] => []
  | [gs] =>
    if Pattern.isSpecial gs then (matching fs front gs).map (front ++ ·)
    else
      let path := front ++ unescaped gs
      if isThere fs path then [path] else []
  | gs :: rest =>
    if Pattern.isSpecial gs then
      (matching fs front gs).flatMap fun n => paths fs (front ++ n ++ ['/']) rest
    else paths fs (front ++ unescaped gs ++ ['/']) rest

/-- The texts that a field stands for: the paths that it fits, in order, or itself. -/
def expand (fs : FileSystem) (gs : List Glyph) : List (List Char) :=
  if Pattern.isSpecial gs then
    match (paths fs [] (components gs)).mergeSort fun a b => !decide (b < a) with
    | [] => [text gs]
    | found => found
  else [text gs]

end Glob

end Streamkeeper.StandIn.Shell
