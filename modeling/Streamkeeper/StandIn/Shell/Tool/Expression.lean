import Streamkeeper.StandIn.Shell.Pattern

/-!
Regular expressions.

An expression is matched at a spot of a line and leads to spots further on.  Of the spots at which the
search may begin the first one that leads anywhere counts, and of those to which it leads the last one.
Repetitions come first with the most rounds, so that a group holds as much as it can.
-/

namespace Streamkeeper.StandIn.Shell

/-- A regular expression. -/
inductive Expression where
  | empty
  | one (p : Pattern)
  /-- The beginning and the end of the line. -/
  | start
  | finish
  /-- A spot between a character of a word and one of no word. -/
  | edge (opens closes : Bool)
  | group (n : Nat) (e : Expression)
  /-- The text that a group holds. -/
  | again (n : Nat)
  | both (a b : Expression)
  | either (a b : Expression)
  | repeated (least : Nat) (most : Option Nat) (e : Expression)
deriving Repr, Inhabited

namespace Expression

/-! ### Matching -/

/-- A spot of a line, and what the groups on the way there hold. -/
structure Spot where
  /-- The character before the spot, unless the line begins there. -/
  previous : Option Char
  rest : List Char
  groups : List (Nat × List Char)

/-- Is a spot among others? -/
def isAmong (ss : List Spot) (s : Spot) : Bool :=
  ss.any fun t => t.rest.length == s.rest.length

/-- Drops spots at which another one is already; the groups of the first one count. -/
def distinct (ss : List Spot) : List Spot :=
  (ss.foldl (fun (kept : List Spot) s => if isAmong kept s then kept else s :: kept) []).reverse

/-- The spots to which at most so many rounds lead, the most rounds first, before those that were found
already. -/
def rounds (step : Spot → List Spot) : (most : Nat) → (last found : List Spot) → List Spot
  | 0, _, found => found
  | most + 1, last, found =>
    let further := (distinct (last.flatMap step)).filter fun s => !isAmong found s
    if further.isEmpty then found else rounds step most further (further ++ found)

/-- The spots to which exactly so many rounds lead. -/
def exactly (step : Spot → List Spot) : Nat → List Spot → List Spot
  | 0, ss => ss
  | n + 1, ss => exactly step n (distinct (ss.flatMap step))

/-- Is it the same letter, if capital and small letters count as the same? -/
def sameLetter (folds : Bool) (c d : Char) : Bool :=
  c == d || (folds && c.toLower == d.toLower)

/-- Does the element stand for the character? -/
def accepts (folds : Bool) (p : Pattern) (c : Char) : Bool :=
  p.accepts c || (folds && (p.accepts c.toLower || p.accepts c.toUpper))

/-- The spots to which an expression leads. -/
def spots (folds : Bool) : Expression → Spot → List Spot
  | .empty, s => [s]
  | .one p, s =>
    match s.rest with
    | c :: rest => if accepts folds p c then [⟨some c, rest, s.groups⟩] else []
    | [] => []
  | .start, s => if s.previous.isNone then [s] else []
  | .finish, s => if s.rest.isEmpty then [s] else []
  | .edge opens closes, s =>
    match s.previous.any isNameChar, s.rest.head?.any isNameChar with
    | false, true => if opens then [s] else []
    | true, false => if closes then [s] else []
    | _, _ => []
  | .group n e, s =>
    (spots folds e s).map fun t =>
      { t with groups := (n, s.rest.take (s.rest.length - t.rest.length)) :: t.groups }
  | .again n, s =>
    let text := (s.groups.lookup n).getD []
    let found := s.rest.take text.length
    if found.length = text.length && (found.zip text).all fun p => sameLetter folds p.1 p.2 then
      [⟨found.getLast?.or s.previous, s.rest.drop text.length, s.groups⟩]
    else []
  | .both a b, s => distinct ((spots folds a s).flatMap (spots folds b))
  | .either a b, s => distinct (spots folds a s ++ spots folds b s)
  | .repeated least most e, s =>
    let more := match most with
      | some n => min (n - least) (s.rest.length + 1)
      | none => s.rest.length + 1
    let first := exactly (spots folds e) least [s]
    rounds (spots folds e) more first first

/-- A match: the text before it, its own text, and the spot after it. -/
structure Match where
  before : List Char
  text : List Char
  after : Spot

/-- The first of the longest matches from some spot on. -/
def search (e : Expression) (folds : Bool) (before : List Char) : (fuel : Nat) → Spot → Option Match
  | 0, _ => none
  | fuel + 1, s =>
    let found := spots folds e ⟨s.previous, s.rest, []⟩
    match (found.map fun t => t.rest.length).min? with
    | some least =>
      (found.find? fun t => t.rest.length == least).map fun t =>
        ⟨before.reverse, s.rest.take (s.rest.length - least), t⟩
    | none =>
      match s.rest with
      | c :: rest => search e folds (c :: before) fuel ⟨some c, rest, []⟩
      | [] => none

/-- The first match in a line. -/
def find? (e : Expression) (folds : Bool) (line : List Char) : Option Match :=
  search e folds [] (line.length + 1) ⟨none, line, []⟩

/-- The number of groups. -/
def groupCount : Expression → Nat
  | .group _ e => groupCount e + 1
  | .both a b => groupCount a + groupCount b
  | .either a b => groupCount a + groupCount b
  | .repeated _ _ e => groupCount e
  | _ => 0

/-! ### Reading -/

/-- The units of a written expression. -/
inductive Unit where
  | one (p : Pattern)
  | start
  | finish
  | edge (opens closes : Bool)
  | opening
  | closing
  | bar
  | again (n : Nat)
  | times (least : Nat) (most : Option Nat)

/-- The bounds of a repetition such as `2,5`. -/
def bounds? (w : List Char) : Option (Nat × Option Nat) :=
  match w.splitOn ',' with
  | [a] => (natural? a).map fun n => (n, some n)
  | [a, []] => (natural? a).map fun n => (n, none)
  | [[], b] => (natural? b).map fun n => (0, some n)
  | [a, b] => (natural? a).bind fun m => (natural? b).map fun n => (m, some n)
  | _ => none

/-- A set after its bracket, and what follows it. -/
def set? (cs : List Char) : Option (Pattern × List Char) :=
  let (negated, inner) := match cs with
    | '^' :: rest => (true, rest)
    | _ => (false, cs)
  -- A backslash stands for itself in a set.
  let marked := inner.map fun c => (c, c == '\\')
  (Pattern.members (inner.length + 1) true marked).map fun r =>
    (.oneOf negated r.1, r.2.map (·.1))

/-- The sets that a letter after a backslash stands for. -/
def classOf? (c : Char) : Option Pattern :=
  let word : List Member := [.named "alnum", .range '_' '_']
  match c with
  | 'w' => some (.oneOf false word)
  | 'W' => some (.oneOf true word)
  | 's' => some (.oneOf false [.named "space"])
  | 'S' => some (.oneOf true [.named "space"])
  | _ => none

/-- The edges of words that a letter after a backslash stands for. -/
def edgeOf? (c : Char) : Option Unit :=
  match c with
  | 'b' => some (.edge true true)
  | '<' => some (.edge true false)
  | '>' => some (.edge false true)
  | _ => none

/-- What is wrong with a written expression. -/
inductive Fault where
  | bracket
  | opening
  | closing
  | brace
  | content
  | backslash
  | reference
deriving Repr, DecidableEq

/-- A fault in words. -/
def Fault.message : Fault → String
  | .bracket => "Unmatched [, [^, [:, [., or [="
  | .opening => "Unmatched ( or \\("
  | .closing => "Unmatched ) or \\)"
  | .brace => "Unmatched \\\x7b"
  | .content => "Invalid content of \\\x7b\\\x7d"
  | .backslash => "Trailing backslash"
  | .reference => "Invalid back reference"

/-- Does a star here stand for itself? -/
def beginsPart : List Unit → Bool
  | [] => true
  | .opening :: _ => true
  | .bar :: _ => true
  | .start :: _ => true
  | _ => false

/-- The bounds between braces, and what follows them. -/
def interval (extended : Bool) (cs : List Char) : Except Fault (Unit × List Char) :=
  let inner := cs.takeWhile fun c => c != '\\' && c != '\x7d'
  let rest := cs.drop inner.length
  let closed : Option (List Char) := match extended, rest with
    | true, '\x7d' :: rest => some rest
    | false, '\\' :: '\x7d' :: rest => some rest
    | _, _ => none
  match closed, bounds? inner with
  | some rest, some (m, n) => .ok (.times m n, rest)
  | some _, none => .error .content
  | none, _ => .error .brace

/-- The meaning of a character that an extended expression writes alone and a basic one after a
backslash. -/
def operatorOf? (c : Char) : Option Unit :=
  match c with
  | '(' => some .opening
  | ')' => some .closing
  | '|' => some .bar
  | '+' => some (.times 1 none)
  | '?' => some (.times 0 (some 1))
  | _ => none

/-- Is an anchor at the end of a part followed by these characters? -/
def endsPart (extended : Bool) : List Char → Bool
  | [] => true
  | ')' :: _ => extended
  | '|' :: _ => extended
  | '\\' :: ')' :: _ => !extended
  | '\\' :: '|' :: _ => !extended
  | _ => false

/-- The units of a written expression, those before in reverse. -/
def units (extended : Bool) : (fuel : Nat) → (before : List Unit) → List Char →
    Except Fault (List Unit)
  | 0, before, _ => .ok before.reverse
  | _, before, [] => .ok before.reverse
  | fuel + 1, before, c :: cs =>
    let next (u : Unit) (rest : List Char) : Except Fault (List Unit) :=
      units extended fuel (u :: before) rest
    let literal (c : Char) (rest : List Char) : Except Fault (List Unit) := next (.one (.char c)) rest
    match c with
    | '.' => next (.one .one) cs
    | '[' =>
      match set? cs with
      | some (p, rest) => next (.one p) rest
      | none => .error .bracket
    | '*' =>
      if beginsPart before then if extended then units extended fuel before cs else literal c cs
      else next (.times 0 none) cs
    | '^' => if extended || beginsPart before then next .start cs else literal c cs
    | '$' => if extended || endsPart extended cs then next .finish cs else literal c cs
    | '\\' =>
      match cs with
      | [] => .error .backslash
      | d :: rest =>
        if d.isDigit && d != '0' then next (.again (d.toNat - '0'.toNat)) rest
        else
          let sign : Option Unit := (edgeOf? d).or (if extended then none else operatorOf? d)
          match classOf? d, sign with
          | some p, _ => next (.one p) rest
          | none, some u => next u rest
          | none, none =>
            if d = openBrace && !extended then do
              let (u, rest) ← interval extended rest
              next u rest
            else literal d rest
    | _ =>
      match if extended then operatorOf? c else none with
      | some u => next u cs
      | none =>
        if extended && c == openBrace && (cs.head?.any Char.isDigit) then do
          let (u, rest) ← interval extended cs
          next u rest
        else literal c cs

/-- What was read of units: an expression, the number of the next group, and the units left. -/
structure Parsed where
  expression : Expression
  groups : Nat
  rest : List Unit

/-- The repetitions that follow a part. -/
def repetitions (e : Expression) : List Unit → Expression × List Unit
  | .times m n :: rest => repetitions (.repeated m n e) rest
  | us => (e, us)

mutual

/-- Parts between bars. -/
def alternatives : (fuel : Nat) → (groups : Nat) → List Unit → Except Fault Parsed
  | 0, groups, us => .ok ⟨.empty, groups, us⟩
  | fuel + 1, groups, us => do
    let a ← sequence fuel groups .empty us
    match a.rest with
    | .bar :: rest =>
      let b ← alternatives fuel a.groups rest
      return { b with expression := .either a.expression b.expression }
    | _ => return a

/-- Parts one after the other, behind an expression. -/
def sequence : (fuel : Nat) → (groups : Nat) → Expression → List Unit → Except Fault Parsed
  | 0, groups, e, us => .ok ⟨e, groups, us⟩
  | fuel + 1, groups, e, us =>
    let behind (groups : Nat) (next : Expression) (rest : List Unit) : Except Fault Parsed :=
      let (next, rest) := repetitions next rest
      sequence fuel groups (.both e next) rest
    match us with
    | .one p :: rest => behind groups (.one p) rest
    | .start :: rest => behind groups .start rest
    | .finish :: rest => behind groups .finish rest
    | .edge opens closes :: rest => behind groups (.edge opens closes) rest
    | .again n :: rest => if n < groups then behind groups (.again n) rest else .error .reference
    | .times _ _ :: rest => sequence fuel groups e rest
    | .opening :: rest => do
      let inner ← alternatives fuel (groups + 1) rest
      match inner.rest with
      | .closing :: rest => behind inner.groups (.group groups inner.expression) rest
      | _ => .error .opening
    | _ => .ok ⟨e, groups, us⟩

end
/-- Reads an expression. -/
def ofChars? (extended : Bool) (cs : List Char) : Except Fault Expression := do
  let us ← units extended (cs.length + 1) [] cs
  let p ← alternatives (4 * us.length + 4) 1 us
  match p.rest with
  | .closing :: _ => throw .closing
  | _ => return p.expression

/-- The expression that stands for a text. -/
def ofText (cs : List Char) : Expression :=
  cs.foldr (fun c e => .both (.one (.char c)) e) .empty

end Expression

end Streamkeeper.StandIn.Shell
