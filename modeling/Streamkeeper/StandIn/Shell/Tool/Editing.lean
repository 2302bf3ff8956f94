import Streamkeeper.StandIn.Shell.Formatting
import Streamkeeper.StandIn.Shell.Tool.Excerpt
import Streamkeeper.StandIn.Shell.Tool.Expression

/-!
The tool that edits lines by a script.

A script is a row of instructions.  For every line they are carried out one after the other on a text,
which is that line at first and is printed at the end.  An address says for which lines an instruction
counts; two of them say from which line to which.
-/

namespace Streamkeeper.StandIn.Shell.Tool

namespace Editing

/-- What names lines. -/
inductive Address where
  | line (n : Nat)
  | last
  | every (first step : Nat)
  | matching (e : Expression) (folds : Bool)
  /-- So many lines after the first one of a range. -/
  | after (n : Nat)

/-- A piece of the text that replaces a match. -/
inductive Piece where
  | char (c : Char)
  /-- What a group holds; the whole match is group zero. -/
  | group (n : Nat)
  /-- From here on letters are capital, small, or left as they are. -/
  | letters (capital : Option Bool)
  /-- The next letter is capital or small. -/
  | nextLetter (capital : Bool)

/-- What is replaced, and how. -/
structure Replacement where
  expression : Expression
  pieces : List Piece
  /-- Which match is the first to be replaced, and whether those after it are replaced too. -/
  first : Nat
  all : Bool
  prints : Bool
  folds : Bool

/-- What an instruction does. -/
inductive Action where
  | replace (r : Replacement)
  | exchange (pairs : List (Char × Char))
  | print (firstLine : Bool)
  | drop (firstLine : Bool)
  | stop (status : Nat) (quietly : Bool)
  | number
  | next (joins : Bool)
  | keep (joins : Bool)
  | restore (joins : Bool)
  | swap
  | insert (text : List Char)
  | append (text : List Char)
  | change (text : List Char)
  /-- Goes to a label or to the end; `ifReplaced` if something was replaced. -/
  | jump (label : List Char) (ifReplaced : Bool)
  | label (name : List Char)
  | opening
  | closing

/-- An instruction with the lines for which it counts. -/
structure Instruction where
  first : Option Address
  second : Option Address
  negated : Bool
  action : Action

/-! ### Scripts -/

/-- A fault of a script: its words, and the characters that are left after it. -/
structure ScriptFault where
  message : String
  left : Nat

/-- A quoted letter in messages. -/
def mark (c : Char) : String :=
  String.ofList [graveAccent, c, '\'']

/-- The text up to a delimiter, which a backslash quotes, and what follows it. -/
def delimited (d : Char) : List Char → Option (List Char × List Char)
  | [] => none
  | '\\' :: c :: rest =>
    (delimited d rest).map fun r => (if c = d then c :: r.1 else '\\' :: c :: r.1, r.2)
  | c :: rest =>
    if c = d then some ([], rest) else (delimited d rest).map fun r => (c :: r.1, r.2)

/-- The length of the set that begins after a bracket, with the bracket that ends it. -/
def setLength? (cs : List Char) : Option Nat :=
  let first := if cs.head? == some '^' then 1 else 0
  let first := if (cs.drop first).head? == some ']' then first + 1 else first
  ((cs.drop first).findIdx? (· == ']')).map (first + · + 1)

/-- The text of an expression up to a delimiter that stands in no set, and what follows it. -/
def delimitedExpression (d : Char) : (fuel : Nat) → List Char → Option (List Char × List Char)
  | 0, _ => none
  | fuel + 1, cs =>
    match cs with
    | [] => none
    | '\\' :: c :: rest =>
      (delimitedExpression d fuel rest).map fun r => (if c = d then c :: r.1 else '\\' :: c :: r.1, r.2)
    | c :: rest =>
      if c = d then some ([], rest)
      else if c = '[' then
        (setLength? rest).bind fun n =>
          (delimitedExpression d fuel (rest.drop n)).map fun r => (c :: rest.take n ++ r.1, r.2)
      else (delimitedExpression d fuel rest).map fun r => (c :: r.1, r.2)

/-- A written expression, in which a line end or a tab may be written as a letter. -/
def expression (extended : Bool) (text : List Char) (left : Nat) : Except ScriptFault Expression :=
  let rec plain : List Char → List Char
    | '\\' :: c :: rest =>
      if ['n', 't', 'r', 'f', 'v'].contains c then (escapeLetters.lookup c).getD c :: plain rest
      else '\\' :: c :: plain rest
    | c :: rest => c :: plain rest
    | [] => []
  (Expression.ofChars? extended (plain text)).mapError fun f => ⟨f.message, left⟩

/-- The pieces of a replacing text. -/
def pieces : List Char → List Piece
  | '\\' :: c :: rest =>
    if c.isDigit then .group (c.toNat - '0'.toNat) :: pieces rest
    else
      let piece : Piece := match c with
        | 'U' => .letters (some true)
        | 'L' => .letters (some false)
        | 'E' => .letters none
        | 'u' => .nextLetter true
        | 'l' => .nextLetter false
        | _ => .char ((escapeLetters.lookup c).getD c)
      piece :: pieces rest
  | '&' :: rest => .group 0 :: pieces rest
  | c :: rest => .char c :: pieces rest
  | [] => []

/-- An address at the beginning of characters, if there is one. -/
def address? (extended : Bool) (cs : List Char) : Except ScriptFault (Option Address × List Char) := do
  let expressionAfter (d : Char) (rest : List Char) : Except ScriptFault (Option Address × List Char) :=
    match delimitedExpression d (rest.length + 1) rest with
    | none => throw ⟨"unterminated address regex", 0⟩
    | some (text, rest) => do
      let folds : Bool := rest.head? == some 'I'
      let rest := if folds then rest.tail else rest
      return (some (.matching (← expression extended text rest.length) folds), rest)
  match cs with
  | '$' :: rest => return (some .last, rest)
  | '/' :: rest => expressionAfter '/' rest
  | '\\' :: d :: rest => expressionAfter d rest
  | c :: _ =>
    if c.isDigit then
      let digits := cs.takeWhile Char.isDigit
      let n := Nat.ofDigitChars 10 digits 0
      match cs.drop digits.length with
      | '~' :: rest =>
        let step := rest.takeWhile Char.isDigit
        return (some (.every n (Nat.ofDigitChars 10 step 0)), rest.drop step.length)
      | rest => return (some (.line n), rest)
    else return (none, cs)
  | [] => return (none, [])

/-- The fault of a flag that is given twice; `rest` comes after it. -/
def repeatedFlag (c : Char) (rest : List Char) : ScriptFault :=
  ⟨"multiple " ++ mark c ++ " options to " ++ mark 's' ++ " command", rest.length⟩

/-- The flags of a replacement. -/
def replacementFlags (r : Replacement) : (fuel : Nat) → List Char →
    Except ScriptFault (Replacement × List Char)
  | 0, cs => .ok (r, cs)
  | fuel + 1, cs =>
    match cs with
    | 'g' :: rest =>
      if r.all then .error (repeatedFlag 'g' rest)
      else replacementFlags { r with all := true } fuel rest
    | 'p' :: rest =>
      if r.prints then .error (repeatedFlag 'p' rest)
      else replacementFlags { r with prints := true } fuel rest
    | 'i' :: rest => replacementFlags { r with folds := true } fuel rest
    | 'I' :: rest => replacementFlags { r with folds := true } fuel rest
    | c :: _ =>
      if c.isDigit then
        let digits := cs.takeWhile Char.isDigit
        let rest := cs.drop digits.length
        match Nat.ofDigitChars 10 digits 0 with
        | 0 => .error ⟨"number option to " ++ mark 's' ++ " command may not be zero", rest.length⟩
        | n => replacementFlags { r with first := n } fuel rest
      else .ok (r, cs)
    | [] => .ok (r, [])

/-- The text after an instruction that takes one, up to the end of the line. -/
def lineText? (cs : List Char) : Option (List Char × List Char) :=
  let cs := cs.dropWhile fun c => c == ' ' || c == '\t'
  let cs := match cs with
    | '\\' :: '\n' :: rest => rest
    | '\\' :: rest => rest
    | cs => cs
  let rec upToEnd : List Char → List Char × List Char
    | '\\' :: c :: rest =>
      let r := upToEnd rest
      (c :: r.1, r.2)
    | '\n' :: rest => ([], rest)
    | c :: rest =>
      let r := upToEnd rest
      (c :: r.1, r.2)
    | [] => ([], [])
  if cs.isEmpty then none else some (upToEnd cs)

/-- The instructions that are a letter and nothing more. -/
def plainAction? (c : Char) : Option Action :=
  match c with
  | 'p' => some (.print false)
  | 'P' => some (.print true)
  | 'd' => some (.drop false)
  | 'D' => some (.drop true)
  | '=' => some .number
  | 'n' => some (.next false)
  | 'N' => some (.next true)
  | 'h' => some (.keep false)
  | 'H' => some (.keep true)
  | 'g' => some (.restore false)
  | 'G' => some (.restore true)
  | 'x' => some .swap
  | _ => none

/-- What an instruction does, from its letter on; and whether it ends without a sign. -/
def action (extended : Bool) (cs : List Char) : Except ScriptFault (Action × Bool × List Char) := do
  match cs with
  | [] => throw ⟨"missing command", 0⟩
  | c :: rest =>
    let text (f : List Char → Action) : Except ScriptFault (Action × Bool × List Char) :=
      match lineText? rest with
      | some (t, rest) => return (f (t ++ ['\n']), true, rest)
      | none => throw ⟨"expected \\ after " ++ mark 'a' ++ ", " ++ mark 'c' ++ " or " ++ mark 'i', 0⟩
    let label (f : List Char → Action) : Except ScriptFault (Action × Bool × List Char) :=
      let rest := rest.dropWhile (· == ' ')
      let name := rest.takeWhile fun c => c != ';' && c != '\n'
      return (f name, false, rest.drop name.length)
    match plainAction? c with
    | some a => return (a, false, rest)
    | none =>
      match c with
      | '\x7b' => return (.opening, true, rest)
      | '\x7d' => return (.closing, false, rest)
      | 'a' => text .append
      | 'i' => text .insert
      | 'c' => text .change
      | ':' => label .label
      | 'b' => label fun name => .jump name false
      | 't' => label fun name => .jump name true
      | 'q' =>
        let digits := (rest.dropWhile (· == ' ')).takeWhile Char.isDigit
        return (.stop (Nat.ofDigitChars 10 digits 0) false, false,
          if digits.isEmpty then rest else (rest.dropWhile (· == ' ')).drop digits.length)
      | 'Q' => return (.stop 0 true, false, rest)
      | 's' =>
        let unended : Except ScriptFault (Action × Bool × List Char) :=
          throw ⟨"unterminated " ++ mark 's' ++ " command", 0⟩
        match rest with
        | [] => unended
        | d :: rest =>
          match delimitedExpression d (rest.length + 1) rest with
          | none => unended
          | some (sought, rest) =>
            match delimited d rest with
            | none => unended
            | some (new, rest) =>
              let pieces := pieces new
              let (r, rest) ← replacementFlags ⟨.empty, pieces, 1, false, false, false⟩
                (rest.length + 1) rest
              let e ← expression extended sought rest.length
              let missing := pieces.filterMap fun p => match p with
                | .group n => if Expression.groupCount e < n then some n else none
                | _ => none
              if let n :: _ := missing then
                let message := "invalid reference \\" ++ Nat.repr n ++ " on " ++ mark 's'
                throw ⟨message ++ " command's RHS", rest.length⟩
              match rest with
              | c :: after =>
                if [' ', '\t', ';', '\n', '\x7d', '#'].contains c then
                  return (.replace { r with expression := e }, false, rest)
                else throw ⟨"unknown option to " ++ mark 's', after.length⟩
              | [] => return (.replace { r with expression := e }, false, rest)
      | 'y' =>
        let unended : Except ScriptFault (Action × Bool × List Char) :=
          throw ⟨"unterminated " ++ mark 'y' ++ " command", 0⟩
        match rest with
        | [] => unended
        | d :: rest =>
          match delimited d rest with
          | none => unended
          | some (old, rest) =>
            match delimited d rest with
            | none => unended
            | some (new, rest) =>
              if old.length = new.length then return (.exchange (old.zip new), false, rest)
              else
                throw ⟨"strings for " ++ mark 'y' ++ " command are different lengths", rest.length⟩
      | _ => throw ⟨"unknown command: " ++ mark c, rest.length⟩

/-- Blanks and signs between instructions. -/
def isBetween (c : Char) : Bool :=
  c == ' ' || c == '\t' || c == '\n' || c == ';'

/-- The signs of denial before an instruction. -/
def denial (cs : List Char) : Except ScriptFault (Bool × List Char) :=
  match cs.dropWhile fun c => c == ' ' || c == '\t' with
  | '!' :: rest =>
    match rest.dropWhile (· == ' ') with
    | '!' :: rest => .error ⟨"multiple " ++ mark '!' ++ "s", rest.length⟩
    | rest => .ok (true, rest)
  | rest => .ok (false, rest)

/-- The second address of a range. -/
def secondAddress (extended : Bool) (cs : List Char) :
    Except ScriptFault (Option Address × List Char) := do
  match cs with
  | ',' :: '+' :: rest =>
    let digits := rest.takeWhile Char.isDigit
    return (some (.after (Nat.ofDigitChars 10 digits 0)), rest.drop digits.length)
  | ',' :: rest =>
    match ← address? extended (rest.dropWhile (· == ' ')) with
    | (none, rest) => throw ⟨"unexpected " ++ mark ',', rest.length - 1⟩
    | found => return found
  | _ => return (none, cs)

/-- Reads instructions. -/
def instructions (extended : Bool) : (fuel : Nat) → (depth : Nat) → List Char →
    Except ScriptFault (List Instruction)
  | 0, _, _ => .ok []
  | fuel + 1, depth, cs => do
    match cs.dropWhile isBetween with
    | [] => if depth = 0 then return [] else throw ⟨"unmatched " ++ mark openBrace, cs.length + 1000000⟩
    | '#' :: rest => instructions extended fuel depth (rest.dropWhile (· != '\n'))
    | cs =>
      let (first, rest) ← address? extended cs
      let (second, rest) ← if first.isSome then secondAddress extended rest else pure (none, rest)
      let (negated, rest) ← denial rest
      match first, second with
      | some (.line 0), none => throw ⟨"invalid usage of line address 0", rest.length - 1⟩
      | some (.line 0), some (.line _) => throw ⟨"invalid usage of line address 0", rest.length - 1⟩
      | _, _ =>
        let (a, complete, after) ← action extended rest
        let i : Instruction := ⟨first, second, negated, a⟩
        let blank := after.dropWhile fun c => c == ' ' || c == '\t'
        let following : List Char ← match complete, blank with
          | true, _ => pure after
          | false, [] => pure []
          | false, c :: more =>
            if isBetween c || c == closeBrace || c == '#' then pure blank
            else throw ⟨"extra characters after command", more.length⟩
        match a, depth with
        | .opening, _ => return i :: (← instructions extended fuel (depth + 1) following)
        | .closing, 0 => throw ⟨"unexpected " ++ mark closeBrace, after.length⟩
        | .closing, depth + 1 => return i :: (← instructions extended fuel depth following)
        | _, _ => return i :: (← instructions extended fuel depth following)

/-! ### Carrying scripts out -/

/-- What a script works on. -/
structure Sheet where
  text : List Char
  kept : List Char
  /-- The number of the line, and the lines after it. -/
  number : Nat
  rest : List (List Char)
  /-- The ranges that are open: their instruction, and the line that ends them if it is known. -/
  ranges : List (Nat × Option Nat)
  replaced : Bool
  /-- What comes after the text at the end. -/
  appended : List (List Char)
  /-- What was printed, the latest first. -/
  printed : List (List Char)

namespace Sheet

/-- Prints a text with its line end. -/
def print (s : Sheet) (cs : List Char) : Sheet :=
  { s with printed := (cs ++ ['\n']) :: s.printed }

/-- Prints what comes after the text. -/
def flush (s : Sheet) : Sheet :=
  { s with appended := [], printed := s.appended.reverse ++ s.printed }

/-- Does an address name the line? -/
def isAt (s : Sheet) : Address → Bool
  | .line n => s.number == n
  | .last => s.rest.isEmpty
  | .every first step =>
    if step = 0 then s.number == first else first ≤ s.number && (s.number - first) % step == 0
  | .matching e folds => (e.find? folds s.text).isSome
  | .after _ => false

/-- The line that ends a range which begins here, if it is known. -/
def rangeEnd (s : Sheet) : Address → Option Nat
  | .line n => some n
  | .after n => some (s.number + n)
  | _ => none

/-- Does an instruction count for the line?  `n` is its position. -/
def selects (s : Sheet) (n : Nat) (i : Instruction) : Bool × Sheet :=
  match i.first, i.second with
  | none, _ => (true, s)
  | some a, none => (s.isAt a, s)
  | some a, some b =>
    let leave : Sheet := { s with ranges := s.ranges.filter (·.1 != n) }
    match s.ranges.lookup n with
    | some (some stop) =>
      if stop ≤ s.number then (s.number ≤ stop, leave) else (true, s)
    | some none => (true, if s.isAt b then leave else s)
    | none =>
      if s.isAt a then
        match s.rangeEnd b with
        | some stop =>
          (true, if stop ≤ s.number then s else { s with ranges := (n, some stop) :: s.ranges })
        | none => (true, { s with ranges := (n, none) :: s.ranges })
      else (false, s)

/-- Is the line the last one of the range of an instruction? -/
def endsRange (s : Sheet) (n : Nat) : Bool :=
  (s.ranges.lookup n).isNone

end Sheet

/-- The capital or the small form of a letter. -/
def inCase (capital : Bool) (c : Char) : Char :=
  if capital then c.toUpper else c.toLower

/-- The text that replaces a match.  `capital` says how letters are written, `next?` how the next one is. -/
def replacing (m : Expression.Match) : (capital next? : Option Bool) → List Piece → List Char
  | _, _, [] => []
  | capital, next?, p :: rest =>
    let written (cs : List Char) : List Char :=
      let cs := capital.elim cs fun u => cs.map (inCase u)
      match next?, cs with
      | some u, c :: cs => inCase u c :: cs
      | _, cs => cs
    let text (cs : List Char) : List Char :=
      written cs ++ replacing m capital (if cs.isEmpty then next? else none) rest
    match p with
    | .char c => text [c]
    | .group 0 => text m.text
    | .group n => text ((m.after.groups.lookup n).getD [])
    | .letters u => replacing m u next? rest
    | .nextLetter u => replacing m capital (some u) rest

/-- Replaces matches; `count` is the number of the next one. -/
def replaceFrom (r : Replacement) : (fuel : Nat) → (count : Nat) → (before rest : List Char) →
    (afterMatch : Bool) → List Char × Bool
  | 0, _, _, rest, _ => (rest, false)
  | fuel + 1, count, before, rest, afterMatch =>
    match Expression.search r.expression r.folds before.reverse (rest.length + 1)
        ⟨before.getLast?, rest, []⟩ with
    | none => (rest, false)
    | some m =>
      let skipped := rest.take (m.before.length - before.length)
      let isStale : Bool := m.text.isEmpty && afterMatch && skipped.isEmpty
      let isCounted : Bool := !isStale && r.first ≤ count
      let shown := if isCounted then replacing m none none r.pieces else m.text
      let left := m.after.rest
      let next := m.before ++ m.text
      let count := if isStale then count else count + 1
      if isCounted && !r.all then (skipped ++ shown ++ left, true)
      else if m.text.isEmpty then
        match left with
        | [] => (skipped ++ shown, isCounted)
        | c :: left =>
          let (more, changed) := replaceFrom r fuel count (next ++ [c]) left false
          (skipped ++ shown ++ c :: more, isCounted || changed)
      else
        let (more, changed) := replaceFrom r fuel count next left true
        (skipped ++ shown ++ more, isCounted || changed)

/-- How the work on a line ends. -/
inductive LineEnd where
  | printed
  | dropped
  /-- The work begins again with the same text. -/
  | again
  | stopped (status : Nat) (quietly : Bool)

/-- The position after the brace that closes the block which begins before position `n`. -/
def afterBlock (is : List Instruction) : (fuel : Nat) → (n depth : Nat) → Nat
  | 0, n, _ => n
  | fuel + 1, n, depth =>
    match is[n]? with
    | none => n
    | some i =>
      match i.action with
      | .opening => afterBlock is fuel (n + 1) (depth + 1)
      | .closing => if depth = 0 then n + 1 else afterBlock is fuel (n + 1) (depth - 1)
      | _ => afterBlock is fuel (n + 1) depth

/-- The position of a label, or the end. -/
def labelled (is : List Instruction) (name : List Char) : Nat :=
  if name.isEmpty then is.length
  else
    (is.zipIdx.find? fun i => match i.1.action with
      | .label l => l == name
      | _ => false).elim is.length (·.2)

/-- Carries out the instructions from a position on. -/
def work (is : List Instruction) (silent : Bool) : (fuel : Nat) → (n : Nat) → Sheet → LineEnd × Sheet
  | 0, _, s => (.printed, s)
  | fuel + 1, n, s =>
    match is[n]? with
    | none => (.printed, s)
    | some i =>
      let (selected, s) := s.selects n i
      let go (s : Sheet) : LineEnd × Sheet := work is silent fuel (n + 1) s
      if selected == i.negated then
        match i.action with
        | .opening => work is silent fuel (afterBlock is is.length (n + 1) 0) s
        | _ => go s
      else
        let firstLine := s.text.takeWhile (· != '\n')
        match i.action with
        | .replace r =>
          let (text, changed) := replaceFrom r (s.text.length + 2) 1 [] s.text false
          if changed then
            let s := { s with text := text, replaced := true }
            go (if r.prints then s.print text else s)
          else go s
        | .exchange pairs => go { s with text := s.text.map fun c => (pairs.lookup c).getD c }
        | .print onlyFirst => go (s.print (if onlyFirst then firstLine else s.text))
        | .drop onlyFirst =>
          if onlyFirst && s.text.contains '\n' then
            (.again, { s with text := s.text.drop (firstLine.length + 1) })
          else (.dropped, s)
        | .stop status quietly => (.stopped status quietly, s)
        | .number => go (s.print (ofNumber s.number))
        | .next joins =>
          match s.rest with
          | [] => (.stopped 0 false, s)
          | l :: rest =>
            let s := if silent || joins then s else s.print s.text
            let s := s.flush
            go
              { s with
                text := if joins then s.text ++ '\n' :: l else l
                number := s.number + 1, rest := rest }
        | .keep joins => go { s with kept := if joins then s.kept ++ '\n' :: s.text else s.text }
        | .restore joins => go { s with text := if joins then s.text ++ '\n' :: s.kept else s.kept }
        | .swap => go { s with text := s.kept, kept := s.text }
        | .insert text => go { s with printed := text :: s.printed }
        | .append text => go { s with appended := s.appended ++ [text] }
        | .change text =>
          let shows : Bool := i.negated || i.second.isNone || s.endsRange n
          (.dropped, if shows then { s with printed := text :: s.printed } else s)
        | .jump name ifReplaced =>
          if ifReplaced && !s.replaced then go s
          else work is silent fuel (labelled is name) { s with replaced := s.replaced && !ifReplaced }
        | .label _ => go s
        | .opening => go s
        | .closing => go s

/-- The instructions that may be carried out for one line. -/
def workLimit : Nat := 100000

/-- The label of a jump that is nowhere. -/
def missingLabel? (is : List Instruction) : Option (List Char) :=
  is.findSome? fun i => match i.action with
    | .jump name _ => if labelled is name = is.length && !name.isEmpty then some name else none
    | _ => none

/-- The ranges that are open before the first line: those that begin with line zero. -/
def openRanges (is : List Instruction) : List (Nat × Option Nat) :=
  is.zipIdx.filterMap fun i => match i.1.first with
    | some (.line 0) => some (i.2, none)
    | _ => none

/-- Texts behind each other, all but the last one with a line end. -/
def withEnds : List Octets → Octets
  | [] => []
  | [bs] => bs
  | bs :: rest =>
    let ended : Bool := bs.isEmpty || bs.getLast? == some 10
    (if ended then bs else bs ++ [10]) ++ withEnds rest

/-- Works on line after line, and gives the outcome. -/
def edit (is : List Instruction) (silent : Bool) : (fuel : Nat) → (fresh : Bool) → Sheet → Nat × Sheet
  | 0, _, s => (0, s)
  | fuel + 1, fresh, s =>
    let started : Option Sheet :=
      if !fresh then some s
      else
        match s.rest with
        | [] => none
        | l :: rest => some { s with text := l, number := s.number + 1, rest := rest, replaced := false }
    match started with
    | none => (0, s)
    | some s =>
      let shown (s : Sheet) : Sheet := if silent then s else s.print s.text
      match work is silent workLimit 0 s with
      | (.printed, s) => edit is silent fuel true (shown s).flush
      | (.dropped, s) => edit is silent fuel true s.flush
      | (.again, s) => edit is silent fuel false s.flush
      | (.stopped status quietly, s) => (status, (if quietly then s else shown s).flush)

end Editing

namespace Editing

/-- Edits files by instructions. -/
def overFiles (i : Invocation) (o : Options) (is : List Instruction) (files : List (List Char)) : Reply :=
  let isFolder (n : List Char) : Bool := match contents i n with
    | .error (.os .isADirectory) => true
    | _ => false
  let found := gather i files fun n e =>
    if isFolder n then s!"{i.self}: read error on {toName n}: {reason e}"
    else s!"{i.self}: can't read {toName n}: {reason e}"
  let octets := withEnds ((found.filterMap Except.toOption).map Supply.octets)
  let ls := (lineOctets octets).map fun l => ofOctets (lineText l)
  let (status, s) := edit is (o.has 'n') (2 * octets.length + 2) true
    ⟨[], [], 0, ls, openRanges is, false, [], []⟩
  let text := s.printed.reverse.flatten
  -- The last line stays without an end if it was without one.
  let unended : Bool := !octets.isEmpty && octets.getLast? != some 10 && s.rest.isEmpty
  let text := if unended then text.dropLast else text
  let status := if files.any isFolder then 4 else if readingStatus found = 0 then status else 2
  { Reply.outcome i status with writings := messages found ++ [(1, .ofChars text)] }

end Editing

/-- Edits lines by a script. -/
def sed (i : Invocation) (o : Options) : Reply :=
  let given := (o.flags.filter fun f => f.1 == 'e').map (·.2)
  let call : Option (List Char × List (List Char)) := match given, o.operands with
    | [], [] => none
    | [], script :: files => some (script, files)
    | scripts, files => some (['\n'].intercalate scripts, files)
  match call with
  | none =>
    .failure i 1 (s!"Usage: {i.self} [OPTION]... \x7bscript-only-if-no-other-script\x7d [input-file]...\n")
  | some (script, files) =>
    let extended : Bool := o.has 'E' || o.has 'r'
    match Editing.instructions extended (script.length + 1) 0 script with
    | .error f =>
      let place := Nat.repr (script.length - f.left)
      .failure i 1 s!"{i.self}: -e expression #1, char {place}: {f.message}"
    | .ok is =>
      match Editing.missingLabel? is with
      | some name =>
        .failure i 4 (s!"{i.self}: can't find label for jump to " ++ String.singleton graveAccent ++
          toName name ++ "'")
      | none => Editing.overFiles i o is files

/-- The options of `sed`. -/
def sedGrammar : Grammar :=
  ⟨"nErsu", "e", [("quiet", 'n'), ("silent", 'n'), ("regexp-extended", 'E'), ("expression", 'e')]⟩

/-- How much `sed` reads. -/
def sedAppetite (args : List (List Char)) : Appetite :=
  match options "sed" sedGrammar (args.length + 1) args with
  | .ok o => whenNoFiles (if o.has 'e' then o.operands else o.operands.tail)
  | .error _ => .nothing

end Streamkeeper.StandIn.Shell.Tool
