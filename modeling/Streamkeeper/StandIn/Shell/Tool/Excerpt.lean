import Streamkeeper.StandIn.Shell.Formatting
import Streamkeeper.StandIn.Shell.Tool.Basic
import Streamkeeper.Text.Lines

/-!
Tools that take parts of texts or count them.
-/

namespace Streamkeeper.StandIn.Shell.Tool

open Host (IoError)

/-- Lines with their ends. -/
def lineOctets (bs : Octets) : List Octets :=
  (Text.lines bs).map Text.Line.octets

/-- A line without its end. -/
def lineText (line : Octets) : Octets :=
  if line.getLast? = some 10 then line.dropLast else line

/-- A line with an end. -/
def ended (line : Octets) : Octets :=
  lineText line ++ [10]

/-! ### Whole texts -/

/-- An octet that cannot be seen, in letters that can. -/
def shown (b : UInt8) : List Char :=
  let low (n : Nat) : List Char :=
    if n < 32 then ['^', Char.ofNat (n + 64)] else if n = 127 then ['^', '?'] else [Char.ofNat n]
  if b = 9 ∨ b = 10 then [Char.ofNat b.toNat]
  else if b < 128 then low b.toNat
  else 'M' :: '-' :: low (b.toNat - 128)

/-- Where a text stands that is written line by line. -/
structure Course where
  /-- The number of the next line. -/
  number : Nat
  /-- Is the last line without an end? -/
  inLine : Bool
  /-- Was the last line empty? -/
  afterEmpty : Bool

/-- Writes a line as the flags of `cat` ask for, or leaves it out. -/
def decorated (o : Options) (c : Course) (line : Octets) : Course × Octets :=
  let isEmpty : Bool := line == [10] && !c.inLine
  if isEmpty && c.afterEmpty && o.has 's' then (c, [])
  else
    let numbered : Bool := !c.inLine && (if o.has 'b' then !isEmpty else o.has 'n')
    let digits := ofNumber c.number
    let front := if numbered then List.replicate (6 - digits.length) ' ' ++ digits ++ ['\t'] else []
    let visible : Bool := o.has 'v' || o.has 'A' || o.has 'e' || o.has 't'
    let tabs : Bool := o.has 'T' || o.has 'A' || o.has 't'
    let ends : Bool := o.has 'E' || o.has 'A' || o.has 'e'
    let body := (lineText line).flatMap fun b =>
      if tabs && b == 9 then toOctets ['^', 'I']
      else if visible then toOctets (shown b)
      else [b]
    let isEnded : Bool := line.getLast? == some 10
    let finish : Octets := if isEnded then (if ends then toOctets ['$', '\n'] else [10]) else []
    (⟨if numbered then c.number + 1 else c.number, !isEnded, isEmpty⟩, toOctets front ++ body ++ finish)

/-- Writes lines as the flags of `cat` ask for. -/
def decorateAll (o : Options) : Course → List Octets → Course × List Octets
  | c, [] => (c, [])
  | c, line :: rest =>
    let (c, bs) := decorated o c line
    let (c, more) := decorateAll o c rest
    (c, bs :: more)

/-- Writes texts behind each other. -/
def cat (i : Invocation) (o : Options) : Reply :=
  let found := gather i o.operands (plainMessage i)
  let isPlain : Bool := o.flags.all fun f => f.1 == 'u'
  let step (acc : Course × List (Nat × Supply)) (r : Except String Supply) :
      Course × List (Nat × Supply) :=
    match r with
    | .error m => (acc.1, (2, .ofString (m ++ "\n")) :: acc.2)
    | .ok s =>
      if isPlain then (acc.1, (1, s) :: acc.2)
      else
        let (c, ls) := decorateAll o acc.1 (lineOctets s.octets)
        (c, (1, .ofOctets ls.flatten) :: acc.2)
  { Reply.outcome i (readingStatus found) with
    writings := (found.foldl step (⟨1, false, false⟩, [])).2.reverse }

/-- The options of `cat`. -/
def catGrammar : Grammar :=
  ⟨"nbsuEATvet", "", [("number", 'n'), ("number-nonblank", 'b'), ("show-ends", 'E'), ("show-all", 'A'),
    ("show-tabs", 'T'), ("squeeze-blank", 's')]⟩

/-- Writes lines in reverse. -/
def tac (i : Invocation) (o : Options) : Reply :=
  let message (n : List Char) (e : IoError) : String := match e with
    | .os .isADirectory => s!"{i.self}: {named n}: read error: {reason e}"
    | _ => s!"{i.self}: failed to open {quoted n} for reading: {reason e}"
  let found := gather i o.operands message
  { Reply.outcome i (readingStatus found) with
    writings := messages found ++
      [(1, .ofOctets (((found.filterMap Except.toOption).map fun s =>
        ((lineOctets s.octets).reverse).flatten).flatten))] }

/-- Writes the characters of each line in reverse. -/
def rev (i : Invocation) (o : Options) : Reply :=
  let found := gather i o.operands fun n e => s!"rev: cannot open {toName n}: {reason e}"
  let turned (line : Octets) : Octets :=
    (lineText line).reverse ++ (if line.getLast? = some 10 then [10] else [])
  { Reply.outcome i (readingStatus found) with
    writings := messages found ++
      [(1, .ofOctets ((lineOctets (joined found).octets).map turned).flatten)] }

/-! ### Beginnings and ends -/

/-- Which part of a text is wanted: how many octets or lines. -/
structure Extent where
  lines : Bool
  count : Nat
  /-- Is the count taken from the other side? -/
  opposite : Bool

/-- A count with a unit. -/
def blockSize? (cs : List Char) : Option Nat :=
  let digits := cs.takeWhile Char.isDigit
  let n := Nat.ofDigitChars 10 digits 0
  if digits.isEmpty then none
  else
    match cs.drop digits.length with
    | [] => some n
    | ['b'] => some (n * 512)
    | ['c'] => some n
    | ['w'] => some (n * 2)
    | ['k'] => some (n * 1024)
    | ['k', 'B'] => some (n * 1000)
    | ['K'] => some (n * 1024)
    | ['M'] => some (n * 1048576)
    | ['M', 'B'] => some (n * 1000000)
    | ['G'] => some (n * 1073741824)
    | _ => none

/-- The extent that a flag names. -/
def extentOf? (opposite : Char) (lines : Bool) (w : List Char) : Option Extent :=
  match w with
  | c :: cs =>
    if c = '-' ∨ c = '+' then (blockSize? cs).map fun n => ⟨lines, n, c == opposite⟩
    else (blockSize? w).map fun n => ⟨lines, n, false⟩
  | [] => none

/-- The words with a number written as a flag of its own put into the usual form. -/
def withOldFlag (args : List (List Char)) : List (List Char) :=
  match args with
  | ('-' :: c :: cs) :: rest =>
    if c.isDigit && cs.all Char.isDigit then ['-', 'n'] :: (c :: cs) :: rest else args
  | _ => args

/-- The words with a number after a plus sign put into the usual form, if there is one file at most. -/
def withOldPlus (args : List (List Char)) : List (List Char) :=
  match args with
  | ('+' :: c :: cs) :: rest =>
    if c.isDigit && cs.all Char.isDigit && rest.length ≤ 1 then ['-', 'n'] :: ('+' :: c :: cs) :: rest
    else args
  | _ => args

/-- The extent that options ask for. -/
def extent (tool : String) (opposite : Char) (o : Options) : Except String Extent :=
  match (o.flags.filter fun f => f.1 == 'n' || f.1 == 'c').getLast? with
  | none => .ok ⟨true, 10, false⟩
  | some (c, w) =>
    match extentOf? opposite (c == 'n') w with
    | some e => .ok e
    | none =>
      let what := if c = 'n' then "lines" else "bytes"
      .error s!"{tool}: invalid number of {what}: {quoted w}"

/-- Enough octets of an endless supply to hold so many lines. -/
def lineStock (s : Supply) (n : Nat) : Octets :=
  if s.endless.contains 10 then s.octets ++ (List.replicate n s.endless).flatten else s.octets

/-- The beginning of a supply. -/
def firstPart (e : Extent) (s : Supply) : Octets :=
  if e.lines then
    let ls := lineOctets (lineStock s e.count)
    (if e.opposite then ls.take (ls.length - e.count) else ls.take e.count).flatten
  else if e.opposite then s.octets.take (s.octets.length - e.count)
  else s.take e.count

/-- The end of some octets. -/
def lastPart (e : Extent) (bs : Octets) : Octets :=
  if e.lines then
    let ls := lineOctets bs
    (if e.opposite then ls.drop (e.count - 1) else ls.drop (ls.length - e.count)).flatten
  else if e.opposite then bs.drop (e.count - 1)
  else bs.drop (bs.length - e.count)

/-- The title over a part of a file. -/
def title (isFirst : Bool) (name : List Char) : List Char :=
  let shown := if isInput name then "standard input".toList else name
  (if isFirst then [] else ['\n']) ++ "==> ".toList ++ shown ++ " <==\n".toList

/-- Writes a part of each file, with titles if there are several. -/
def parts (tool : String) (i : Invocation) (o : Options) (f : Supply → Octets) : Reply :=
  let names := orInput o.operands
  let titled : Bool := (names.length > 1 && !o.has 'q') || o.has 'v'
  let message (n : List Char) (e : IoError) : String := match e with
    | .os .isADirectory => s!"{tool}: error reading {quoted n}: {reason e}"
    | _ => s!"{tool}: cannot open {quoted n} for reading: {reason e}"
  let found := names.map fun n => (n, contents i n)
  let isDirectory : Except IoError Supply → Bool
    | .error (.os .isADirectory) => true
    | _ => false
  let firstShown := (found.find? fun p => p.2.isOk || isDirectory p.2).map (·.1)
  let writings := found.flatMap fun (n, r) =>
    let head : List (Nat × Supply) :=
      if titled && (r.isOk || isDirectory r) then [(1, .ofChars (title (firstShown == some n) n))]
      else []
    match r with
    | .ok s => head ++ [(1, Supply.ofOctets (f s))]
    | .error e => head ++ [(2, Supply.ofString (message n e ++ "\n"))]
  { Reply.outcome i (if found.all (·.2.isOk) then 0 else 1) with writings := writings }

/-- The options of `head` and `tail`. -/
def extentGrammar : Grammar :=
  ⟨"qvz", "nc", [("lines", 'n'), ("bytes", 'c'), ("quiet", 'q'), ("silent", 'q'), ("verbose", 'v')]⟩

/-- Writes beginnings. -/
def head (i : Invocation) (o : Options) : Reply :=
  match extent "head" '-' o with
  | .error m => .failure i 1 m
  | .ok e =>
    let left : Nat := match i.input with
      | .ok s => if s.isEndless then 0 else s.octets.length - (firstPart e s).length
      | .error _ => 0
    { parts "head" i o (firstPart e) with
      unused := if (orInput o.operands).any isInput then left else 0 }

/-- How much `head` reads. -/
def headAppetite (args : List (List Char)) : Appetite :=
  match options "head" extentGrammar (args.length + 2) (withOldFlag args) with
  | .error _ => .nothing
  | .ok o =>
    if !(orInput o.operands).any isInput then .nothing
    else
      match extent "head" '-' o with
      | .ok e =>
        if e.opposite then .everything
        else if e.lines then .upTo fun bs => e.count ≤ bs.count 10
        else .upTo fun bs => e.count ≤ bs.length
      | .error _ => .nothing

/-- Writes ends. -/
def tail (i : Invocation) (o : Options) : Reply :=
  match extent "tail" '+' o with
  | .error m => .failure i 1 m
  | .ok e => parts "tail" i o fun s => lastPart e s.octets

/-! ### Counting -/

/-- The number of words of a text. -/
def wordCount (bs : Octets) : Nat :=
  let isSpace (b : UInt8) : Bool := b == 32 || (9 ≤ b && b ≤ 13)
  (bs.foldl (fun (n, inside) b =>
    if isSpace b then (n, false) else (if inside then n else n + 1, true)) (0, false)).1

/-- The column after the octets of a line, where tabs lead to the next multiple of eight. -/
def columns (line : Octets) : Nat :=
  line.foldl (fun n b =>
    if b = 9 then (n / 8 + 1) * 8 else if 32 ≤ b ∧ b < 127 then n + 1 else n) 0

/-- What `wc` counts. -/
def counts (o : Options) (bs : Octets) : List Nat :=
  let all : Bool := o.flags.isEmpty
  (if all || o.has 'l' then [bs.count 10] else []) ++
    (if all || o.has 'w' then [wordCount bs] else []) ++
    (if o.has 'm' then [bs.length] else []) ++
    (if all || o.has 'c' then [bs.length] else []) ++
    (if o.has 'L' then [((lineOctets bs).map columns).foldl max 0] else [])

/-- The size of the file that an operand names, or none if it is no ordinary file. -/
def fileSize? (i : Invocation) (name : List Char) : Option Nat :=
  if isInput name then
    if i.seekable then i.input.toOption.map (·.octets.length) else none
  else
    match i.files.stat (toName name) with
    | .ok (.file content _) => some content.length
    | .ok _ => none
    | .error _ => some 0

/-- Counts lines, words and octets. -/
def wc (i : Invocation) (o : Options) : Reply :=
  let names := orInput o.operands
  let found := names.map fun n => (n, contents i n)
  let read := found.filterMap fun p => p.2.toOption
  let total := (read.map fun s => s.octets).flatten
  let several : Bool := (counts o []).length > 1 || names.length > 1
  let sizes := names.map (fileSize? i)
  let width : Nat :=
    if !several then 1
    else max (ofNumber ((sizes.filterMap id).foldl (· + ·) 0)).length (if sizes.all Option.isSome then 1 else 7)
  let line (bs : Octets) (name : Option (List Char)) : List Char :=
    let cells := (counts o bs).map fun n =>
      let ds := ofNumber n
      List.replicate (width - ds.length) ' ' ++ ds
    [' '].intercalate cells ++ (match name with
      | some n => ' ' :: n
      | none => []) ++ ['\n']
  let writings := found.flatMap fun (n, r) =>
    let name := if o.operands.isEmpty then none else some n
    match r with
    | .ok s => [(1, Supply.ofChars (line s.octets name))]
    | .error (.os .isADirectory) =>
      [(2, Supply.ofString (plainMessage i n (.os .isADirectory) ++ "\n")),
        (1, Supply.ofChars (line [] name))]
    | .error e => [(2, Supply.ofString (plainMessage i n e ++ "\n"))]
  let totals := if names.length > 1 then [(1, Supply.ofChars (line total (some "total".toList)))] else []
  { Reply.outcome i (if found.all (·.2.isOk) then 0 else 1) with writings := writings ++ totals }

/-- The options of `wc`. -/
def countGrammar : Grammar :=
  ⟨"lwcmL", "", [("lines", 'l'), ("words", 'w'), ("bytes", 'c'), ("chars", 'm'), ("max-line-length", 'L')]⟩

/-! ### Fields -/

/-- What is wrong with a list of positions. -/
inductive RangeFault where
  | notANumber (w : List Char)
  | zero
  | noEnds
  | decreasing

/-- A range such as `3-5`: its first and last position. -/
def range? (part : List Char) : Except RangeFault (Nat × Option Nat) := do
  let position (w : List Char) (none : Nat) : Except RangeFault Nat :=
    if w.isEmpty then .ok none
    else
      match natural? w with
      | some 0 => .error .zero
      | some n => .ok n
      | Option.none => .error (.notANumber part)
  match part.splitOn '-' with
  | [a] =>
    let n ← position a 0
    if n = 0 then throw .zero else return (n, some n)
  | [[], []] => throw .noEnds
  | [a, b] =>
    let m ← position a 1
    if b.isEmpty then return (m, none)
    else
      let n ← position b m
      if n < m then throw .decreasing else return (m, some n)
  | _ => throw (.notANumber part)

/-- The ranges of a list such as `1,3-5,7-`. -/
def ranges? (w : List Char) : Except RangeFault (List (Nat × Option Nat)) :=
  (w.splitOn ',').mapM range?

/-- A fault in words, for fields or for characters. -/
def RangeFault.message (ofFields : Bool) : RangeFault → String
  | .notANumber w =>
    (if ofFields then "invalid field value " else "invalid byte/character position ") ++ quoted w
  | .zero =>
    if ofFields then "fields are numbered from 1" else "byte/character positions are numbered from 1"
  | .noEnds => "invalid range with no endpoint: -"
  | .decreasing => "invalid decreasing range"

/-- Is a position in one of the ranges? -/
def inRanges (rs : List (Nat × Option Nat)) (n : Nat) : Bool :=
  rs.any fun r => r.1 ≤ n && (r.2.map fun m => decide (n ≤ m)).getD true

/-- The elements at positions, counted from one. -/
def atPositions {α : Type} (rs : List (Nat × Option Nat)) (xs : List α) : List α :=
  (xs.zipIdx.filter fun x => inRanges rs (x.2 + 1)).map (·.1)

/-- Writes parts of each line. -/
def cut (i : Invocation) (o : Options) : Reply :=
  let refuse (m : String) : Reply := .failure i 1 (s!"{i.self}: {m}" ++ hint i.self)
  let delimiter := (o.value? 'd').getD ['\t']
  match (o.flags.filter fun f => f.1 == 'f' || f.1 == 'c' || f.1 == 'b').getLast? with
  | none => refuse "you must specify a list of bytes, characters, or fields"
  | some (kind, w) =>
    let ofFields : Bool := kind == 'f'
    match ranges? w with
    | .error fault => refuse (fault.message ofFields)
    | .ok rs =>
      if 1 < delimiter.length then refuse "the delimiter must be a single character"
      else if !ofFields && (o.value? 'd').isSome then
        refuse "an input delimiter may be specified only when operating on fields"
      else
        let mark := delimiter.headD '\x00'
        let between := (o.value? 'o').getD [mark]
        let change (line : Octets) : Option Octets :=
          let cs := ofOctets (lineText line)
          if ofFields then
            if cs.contains mark then
              some (toOctets (between.intercalate (atPositions rs (cs.splitOn mark)) ++ ['\n']))
            else if o.has 's' then none
            else some (ended line)
          else some (toOctets (atPositions rs cs ++ ['\n']))
        let found := gather i o.operands (plainMessage i)
        { Reply.outcome i (readingStatus found) with
          writings := messages found ++
            [(1, .ofOctets ((lineOctets (joined found).octets).filterMap change).flatten)] }

/-- The options of `cut`. -/
def cutGrammar : Grammar :=
  ⟨"sn", "fcbdo", [("fields", 'f'), ("characters", 'c'), ("bytes", 'b'), ("delimiter", 'd'),
    ("only-delimited", 's'), ("output-delimiter", 'o')]⟩

end Streamkeeper.StandIn.Shell.Tool
