import Streamkeeper.StandIn.Shell.Tool.Excerpt
import Streamkeeper.StandIn.Shell.Tool.Expression

/-!
The tool that selects lines by expressions.
-/

namespace Streamkeeper.StandIn.Shell.Tool

/-- What a line is compared with. -/
structure Wanted where
  expressions : List Expression
  folds : Bool
  wholeLine : Bool
  wholeWord : Bool

namespace Wanted

/-- Is there no letter, digit or underscore on either side of a match? -/
def isWord (m : Expression.Match) : Bool :=
  !(m.before.getLast?.any isNameChar) && !(m.after.rest.head?.any isNameChar)

/-- The first match that counts in what is left of a line; `before` is what is not looked at any more. -/
def next? (w : Wanted) : (fuel : Nat) → (before rest : List Char) → Option Expression.Match
  | 0, _, _ => none
  | fuel + 1, before, rest =>
    let found := w.expressions.filterMap fun e =>
      Expression.search e w.folds before.reverse (rest.length + 1) ⟨before.getLast?, rest, []⟩
    let first := (found.map fun m => m.before.length).min?
    let best := (found.filter fun m => some m.before.length == first).foldl
      (fun (b : Option Expression.Match) m =>
        if b.all fun b => b.text.length < m.text.length then some m else b) none
    match best with
    | none => none
    | some m =>
      let counts : Bool :=
        if w.wholeLine then m.before.isEmpty && m.after.rest.isEmpty
        else !w.wholeWord || isWord m
      if counts then some m
      else
        let skipped := m.before.length + 1 - before.length
        if rest.length < skipped then none
        else next? w fuel (before ++ rest.take skipped) (rest.drop skipped)

/-- The texts of all matches in a line that are not empty. -/
def texts (w : Wanted) (line : List Char) : (fuel : Nat) → (start : Nat) → List (List Char)
  | 0, _ => []
  | fuel + 1, start =>
    match next? w (line.length + 2) (line.take start) (line.drop start) with
    | none => []
    | some m =>
      let stop := m.before.length + m.text.length
      if m.text.isEmpty then
        if line.length ≤ stop then [] else texts w line fuel (stop + 1)
      else m.text :: texts w line fuel stop

/-- Is there a match in a line? -/
def isIn (w : Wanted) (line : List Char) : Bool :=
  (w.next? (line.length + 2) [] line).isSome

end Wanted

/-- How `grep` is called. -/
def grepSynopsis (i : Invocation) : String :=
  s!"Usage: {i.self} [OPTION]... PATTERNS [FILE]..."

/-- The patterns that options and the first operand give, and the other operands. -/
def grepPatterns (i : Invocation) (o : Options) : Except String (List (List Char) × List (List Char)) := do
  let given := (o.flags.filter fun f => f.1 == 'e').map (·.2)
  let files := (o.flags.filter fun f => f.1 == 'f').map (·.2)
  let read ← files.mapM fun name =>
    match contents i name with
    | .ok s => .ok ((lineOctets s.octets).map fun l => ofOctets (lineText l))
    | .error e => .error s!"{i.self}: {named name}: {reason e}"
  let (patterns, operands) ←
    if !given.isEmpty || !files.isEmpty then pure (given, o.operands)
    else
      match o.operands with
      | [] => throw (grepSynopsis i ++ hint i.self)
      | p :: rest => pure ([p], rest)
  return (patterns.flatMap (·.splitOn '\n') ++ read.flatten, operands)

/-- What the options and patterns of a call ask for. -/
def wanted (i : Invocation) (o : Options) (patterns : List (List Char)) : Except String Wanted := do
  let fixed : Bool := o.last? ['E', 'F', 'G'] == some 'F'
  let extended : Bool := o.last? ['E', 'F', 'G'] == some 'E'
  let es ← patterns.mapM fun p =>
    if fixed then .ok (Expression.ofText p)
    else (Expression.ofChars? extended p).mapError fun f => s!"{i.self}: {f.message}"
  return ⟨es, o.has 'i' || o.has 'y', o.has 'x', o.has 'w'⟩

/-- The lines of one file that are shown, and how many were chosen. -/
structure Selected where
  lines : List (List Char)
  count : Nat

/-- How many lines around a chosen one are shown: before it, after it, and whether any were asked for. -/
structure Surroundings where
  before : Nat
  after : Nat
  asked : Bool

/-- The lines around a chosen one that options ask for. -/
def surroundings (i : Invocation) (o : Options) : Except String Surroundings := do
  let count (letter : Char) : Except String Nat :=
    match o.value? letter with
    | none => .ok 0
    | some w =>
      match natural? w with
      | some n => .ok n
      | none => .error s!"{i.self}: {toName w}: invalid context length argument"
  let around ← count 'C'
  let before ← count 'B'
  let after ← count 'A'
  let asked : Bool := o.has 'A' || o.has 'B' || o.has 'C'
  return ⟨if o.has 'B' then before else around, if o.has 'A' then after else around, asked⟩

/-- Puts a line of dashes between lines that do not follow each other. -/
def withGaps : List (Nat × List Char) → List (List Char)
  | (m, l) :: (n, k) :: rest =>
    if n ≤ m + 1 then l :: withGaps ((n, k) :: rest) else l :: ['-', '-'] :: withGaps ((n, k) :: rest)
  | [(_, l)] => [l]
  | [] => []

/-- Selects the lines of a text. -/
def selectLines (o : Options) (w : Wanted) (around : Surroundings) (title : List Char) (bs : Octets) :
    Selected :=
  let ls := (lineOctets bs).map fun l => ofOctets (lineText l)
  let numbered := ls.zipIdx
  let chosen := numbered.filter fun l => w.isIn l.1 != o.has 'v'
  let chosen := match (o.value? 'm').bind natural? with
    | some n => chosen.take n
    | none => chosen
  let front (sign : Char) (n : Nat) : List Char :=
    (if title.isEmpty then [] else title ++ [sign]) ++
      (if o.has 'n' then ofNumber (n + 1) ++ [sign] else [])
  let shown := if o.has 'o' then
      if o.has 'v' then []
      else chosen.flatMap fun (l, n) => (w.texts l (l.length + 1) 0).map (front ':' n ++ ·)
    else if around.asked then
      let isNear (n : Nat) : Bool :=
        chosen.any fun c => c.2 ≤ n + around.before && n ≤ c.2 + around.after
      let isChosen (n : Nat) : Bool := chosen.any fun c => c.2 == n
      withGaps ((numbered.filter fun l => isNear l.2).map fun (l, n) =>
        (n, front (if isChosen n then ':' else '-') n ++ l))
    else chosen.map fun (l, n) => front ':' n ++ l
  ⟨shown, chosen.length⟩

/-- What is written about one file, and where. -/
def grepReport (o : Options) (name title : List Char) (bs : Octets) (s : Selected) : Nat × List Char :=
  let line (cs : List Char) : List Char := cs ++ ['\n']
  if o.has 'q' then (1, [])
  else if o.has 'l' then (1, if 0 < s.count then line name else [])
  else if o.has 'L' then (1, if s.count = 0 then line name else [])
  else if o.has 'c' then
    (1, line ((if title.isEmpty then [] else title ++ [':']) ++ ofNumber s.count))
  else if bs.contains 0 && 0 < s.count && !o.has 'a' then
    (2, line ("grep: ".toList ++ name ++ ": binary file matches".toList))
  else (1, s.lines.flatMap line)

/-- Everything that a call asks for: what lines are compared with, what is shown around them, and the
files. -/
def grepRequest (i : Invocation) (o : Options) :
    Except String (Wanted × Surroundings × List (List Char)) := do
  let around ← surroundings i o
  if (o.value? 'm').any fun w => (natural? w).isNone then throw s!"{i.self}: invalid max count"
  let (patterns, operands) ← grepPatterns i o
  return (← wanted i o patterns, around, orInput operands)

/-- Selects lines by expressions. -/
def grep (i : Invocation) (o : Options) : Reply :=
  match grepRequest i o with
  | .error m => .failure i 2 m
  | .ok (w, around, names) =>
    let titled : Bool := (1 < names.length || o.has 'H') && !o.has 'h'
    let quiet : Bool := o.has 'q'
    let results := names.map fun n =>
      let name := if isInput n then "(standard input)".toList else n
      match contents i n with
      | .error e => (false, true, (2, Supply.ofString (plainMessage i n e ++ "\n")))
      | .ok s =>
        let title := if titled then name else []
        let found := selectLines o w around title s.octets
        let (fd, text) := grepReport o name title s.octets found
        (0 < found.count, false, (fd, Supply.ofChars text))
    -- A quiet search ends with the first line that it finds.
    let missed := if quiet then results.takeWhile fun r => !r.1 else results
    let failed : Bool := missed.any (·.2.1)
    let selected : Bool := results.any (·.1)
    let status := if failed && !(quiet && selected) then 2 else if selected then 0 else 1
    let shown := (missed.map (·.2.2)).filter fun r =>
      !r.2.isEmpty && !(r.1 == 2 && o.has 's')
    { Reply.outcome i status with writings := shown }

/-- The options of `grep`. -/
def grepGrammar : Grammar :=
  ⟨"cvinqsEFGoxwlLHhay", "efmABC", [("count", 'c'), ("invert-match", 'v'), ("ignore-case", 'i'),
    ("line-number", 'n'), ("quiet", 'q'), ("silent", 'q'), ("no-messages", 's'),
    ("extended-regexp", 'E'), ("fixed-strings", 'F'), ("basic-regexp", 'G'), ("only-matching", 'o'),
    ("line-regexp", 'x'), ("word-regexp", 'w'), ("files-with-matches", 'l'),
    ("files-without-match", 'L'), ("with-filename", 'H'), ("no-filename", 'h'), ("text", 'a'),
    ("regexp", 'e'), ("file", 'f'), ("max-count", 'm'), ("after-context", 'A'),
    ("before-context", 'B'), ("context", 'C')]⟩

/-- Reads the options of `grep`; a fault in them shows how it is called. -/
def grepCall (i : Invocation) : Reply :=
  match options i.self grepGrammar (i.arguments.length + 1) i.arguments with
  | .ok o => grep i o
  | .error m =>
    let lines := m.splitOn "\n"
    .failure i 2 ("\n".intercalate (lines.take 1 ++ grepSynopsis i :: lines.drop 1))

/-- How much `grep` reads. -/
def grepAppetite (args : List (List Char)) : Appetite :=
  match options "grep" grepGrammar (args.length + 1) args with
  | .ok o =>
    let given : Bool := o.has 'e' || o.has 'f'
    whenNoFiles (if given then o.operands else o.operands.tail)
  | .error _ => .nothing

end Streamkeeper.StandIn.Shell.Tool
