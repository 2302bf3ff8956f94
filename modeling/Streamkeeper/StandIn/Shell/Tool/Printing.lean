import Streamkeeper.Host.Path
import Streamkeeper.StandIn.Shell.Condition
import Streamkeeper.StandIn.Shell.Formatting
import Streamkeeper.StandIn.Shell.Pattern
import Streamkeeper.StandIn.Shell.Tool.Basic

/-!
Tools that print what their arguments say, and tools that only have an outcome.
-/

namespace Streamkeeper.StandIn.Shell.Tool

open Host

/-- Is the word made of flags of `echo`? -/
def isEchoFlag (w : List Char) : Bool :=
  match w with
  | '-' :: c :: cs => (c :: cs).all ['n', 'e', 'E'].contains
  | _ => false

/-- Prints its arguments. -/
def echo (i : Invocation) : Reply :=
  let flags := i.arguments.takeWhile isEchoFlag
  let letters := (flags.map List.tail).flatten
  let text := [' '].intercalate (i.arguments.drop flags.length)
  let escapes : Bool := ((letters.filter (· != 'n')).getLast?) == some 'e'
  let (text, stopped) := if escapes then unescape true (text.length + 1) text else (text, false)
  .text i (if letters.contains 'n' || stopped then text else text ++ ['\n'])

/-- Prints arguments in a format. -/
def printf (i : Invocation) : Reply :=
  match if i.arguments.head? = some ['-', '-'] then i.arguments.tail else i.arguments with
  | [] => .failure i 1 (s!"{i.self}: missing operand" ++ hint i.self)
  | format :: args =>
    let p := printFormatted .tools format args
    let excess : List String := match p.args with
      | w :: _ =>
        if p.stopped then []
        else [s!"{i.self}: warning: ignoring excess arguments, starting with '{toName w}'"]
      | [] => []
    let complaint (c : FormatFault) : String := s!"{i.self}: {c.toolMessage}"
    let lines := p.complaints.map complaint ++ excess
    { Reply.outcome i (if p.complaints.isEmpty then 0 else 1) with
      writings := lines.map (fun m => (2, .ofString (m ++ "\n"))) ++ [(1, .ofChars p.text)] }

/-! ### Sequences -/

/-- A decimal number as digits and the number of them after the point. -/
structure Decimal where
  digits : Int
  places : Nat

/-- The number whose point stands so many places further to the right. -/
def Decimal.shifted (d : Decimal) (e : Int) : Decimal :=
  let places := (d.places : Int) - e
  if places < 0 then ⟨d.digits * Nat.pow 10 places.natAbs, 0⟩ else ⟨d.digits, places.toNat⟩

/-- The greatest exponent that is taken into account. -/
def greatestExponent : Nat := 400

/-- Reads a decimal number. -/
def Decimal.ofChars? (cs : List Char) : Option Decimal :=
  let exponent? (cs : List Char) : Option Int := match cs with
    | [] => some 0
    | e :: rest =>
      if e = 'e' ∨ e = 'E' then (integer? rest).filter (·.natAbs ≤ greatestExponent) else none
  let read (sign : Int) (cs : List Char) : Option Decimal :=
    let whole := cs.takeWhile Char.isDigit
    let rest := cs.drop whole.length
    let part := match rest with
      | '.' :: rest => rest.takeWhile Char.isDigit
      | _ => []
    let rest := if rest.head? == some '.' then rest.drop (part.length + 1) else rest
    if whole.isEmpty && part.isEmpty then none
    else
      (exponent? rest).map
        (Decimal.shifted ⟨sign * Nat.ofDigitChars 10 (whole ++ part) 0, part.length⟩)
  match cs with
  | '-' :: cs => read (-1) cs
  | '+' :: cs => read 1 cs
  | _ => read 1 cs

/-- The digits of a number with more places. -/
def Decimal.atPlaces (d : Decimal) (places : Nat) : Int :=
  d.digits * Nat.pow 10 (places - d.places)

/-- A number of units in the last place as text, with zeros in front up to a width. -/
def decimalText (places width : Nat) (n : Int) : List Char :=
  let ds := Real.withPoint n.natAbs places false
  let sign : List Char := if n < 0 then ['-'] else []
  sign ++ List.replicate (width - sign.length - ds.length) '0' ++ ds

/-- The numbers from `a` by `step` up to `b`. -/
def numbers (a step b : Int) : List Int :=
  if step = 0 then []
  else
    let count := if step > 0 then (b - a) / step + 1 else (a - b) / (-step) + 1
    (List.range count.toNat).map fun (k : Nat) => a + step * k

/-- What a call of `seq` asks for. -/
structure Sequence where
  separator : List Char
  equalWidth : Bool
  format : Option (List Char)
  words : List (List Char)

/-- The flags of `seq`, which end at the first number, and the other words. -/
def Sequence.ofArguments (tool : String) : (fuel : Nat) → List (List Char) → Except String Sequence
  | 0, args => .ok ⟨['\n'], false, none, args⟩
  | fuel + 1, args =>
    let after (rest : List (List Char)) (f : Sequence → Sequence) : Except String Sequence :=
      (Sequence.ofArguments tool fuel rest).map f
    match args with
    | ['-', 'w'] :: rest => after rest fun s => { s with equalWidth := true }
    | ['-', 's'] :: w :: rest => after rest fun s => { s with separator := w }
    | ['-', 'f'] :: w :: rest => after rest fun s => { s with format := some w }
    | ['-', '-'] :: rest => .ok ⟨['\n'], false, none, rest⟩
    | ('-' :: c :: cs) :: rest =>
      if c.isDigit || c == '.' then .ok ⟨['\n'], false, none, ('-' :: c :: cs) :: rest⟩
      else if c = 's' then after rest fun s => { s with separator := cs }
      else if c = 'f' then after rest fun s => { s with format := some cs }
      else .error (s!"{tool}: invalid option -- '{toName [c]}'" ++ hint tool)
    | args => .ok ⟨['\n'], false, none, args⟩

/-- Prints a sequence of numbers. -/
def seq (i : Invocation) : Reply :=
  match Sequence.ofArguments i.self (i.arguments.length + 1) i.arguments with
  | .error m => .failure i 1 m
  | .ok ⟨separator, equalWidth, format, words⟩ =>
    let invalid (w : List Char) : Bool := (Decimal.ofChars? w).isNone
    if words.isEmpty then .failure i 1 (s!"{i.self}: missing operand" ++ hint i.self)
    else if 3 < words.length then
      .failure i 1 (s!"{i.self}: extra operand {quoted ((words[3]?).getD [])}" ++ hint i.self)
    else
      match words.find? invalid with
      | some w => .failure i 1 (s!"{i.self}: invalid floating point argument: {quoted w}" ++ hint i.self)
      | none =>
        let one : Decimal := ⟨1, 0⟩
        let (a, step, b) : Decimal × Decimal × Decimal := match words.filterMap Decimal.ofChars? with
          | [b] => (one, one, b)
          | [a, b] => (a, one, b)
          | [a, step, b] => (a, step, b)
          | _ => (one, one, one)
        if step.digits = 0 then
          .failure i 1 (s!"{i.self}: invalid Zero increment value: {quoted ((words[1]?).getD [])}" ++ hint i.self)
        else
          let shown := max a.places step.places
          let places := max shown b.places
          let ns := numbers (a.atPlaces places) (step.atPlaces places) (b.atPlaces places)
          let ns := ns.map fun (n : Int) => n / (Nat.pow 10 (places - shown) : Nat)
          let width := if equalWidth then
              (ns.map fun n => (decimalText shown 0 n).length).foldl max
                (decimalText shown 0 (b.atPlaces places / Nat.pow 10 (places - shown))).length
            else 0
          let line (n : Int) : List Char :=
            let text := decimalText shown width n
            match format with
            | some f => (printFormatted .tools f [text]).text
            | none => text
          if ns.isEmpty then .outcome i 0
          else .text i (separator.intercalate (ns.map line) ++ ['\n'])

/-- Prints a line over and over. -/
def yes (i : Invocation) (o : Options) : Reply :=
  let line := if o.operands.isEmpty then ['y'] else [' '].intercalate o.operands
  .supply i ⟨[], toOctets (line ++ ['\n'])⟩

/-! ### Waiting -/

/-- The microseconds of a time with a unit. -/
def duration? (w : List Char) : Option Nat :=
  let unit : Nat := match w.getLast? with
    | some 'm' => 60
    | some 'h' => 3600
    | some 'd' => 86400
    | _ => 1
  let digits := if w.getLast?.any ['s', 'm', 'h', 'd'].contains then w.dropLast else w
  match Decimal.ofChars? digits with
  | some d => if d.digits < 0 then none else some (d.digits.natAbs * 1000000 * unit / Nat.pow 10 d.places)
  | none => if digits = "infinity".toList ∨ digits = "inf".toList then some 1000000000000000 else none

/-- Waits for a time. -/
def sleep (i : Invocation) : Reply :=
  let words := if i.arguments.head? = some ['-', '-'] then i.arguments.tail else i.arguments
  match words, words.filter fun w => (duration? w).isNone with
  | [], _ => .failure i 1 (s!"{i.self}: missing operand" ++ hint i.self)
  | _, [] => { Reply.outcome i 0 with delay := (words.filterMap duration?).foldl (· + ·) 0 }
  | _, bad =>
    match bad with
    | ('-' :: c :: _) :: _ => .failure i 1 (s!"{i.self}: invalid option -- '{toName [c]}'" ++ hint i.self)
    | _ =>
      .failure i 1 ("\n".intercalate (bad.map fun w =>
        s!"{i.self}: invalid time interval {quoted w}") ++ hint i.self)

/-! ### Conditions -/

/-- Tells whether a condition holds. -/
def test (i : Invocation) : Reply :=
  let bracketed : Bool := i.name.getLast? == some '['
  if bracketed && i.arguments.getLast? != some [']'] then .failure i 2 s!"{i.self}: missing ']'"
  else
    let ws := if bracketed then i.arguments.dropLast else i.arguments
    match Condition.holds i.files (ws.length + 1) ws with
    | .ok t => .outcome i (if t then 0 else 1)
    | .error fault => .failure i 2 s!"{i.self}: {fault.toolMessage}"

/-! ### Names -/

/-- A path without slashes at its end. -/
def withoutSlashes (path : List Char) : List Char :=
  (path.reverse.dropWhile (· == '/')).reverse

/-- The last name of a path. -/
def lastName (path : List Char) : List Char :=
  if path.isEmpty then []
  else
    match withoutSlashes path with
    | [] => ['/']
    | p => (p.reverse.takeWhile (· != '/')).reverse

/-- The last name of a path without an ending, unless it is nothing but the ending. -/
def lastNameWithout (ending path : List Char) : List Char :=
  let name := lastName path
  let cut := name.take (name.length - ending.length)
  if name != ending && cut ++ ending == name then cut else name

/-- Prints the last names of paths. -/
def baseName (i : Invocation) (o : Options) : Reply :=
  let ending := (o.value? 's').getD []
  match o.operands, o.has 'a' || o.has 's' with
  | [], _ => .failure i 1 (s!"{i.self}: missing operand" ++ hint i.self)
  | paths, true => .text i (paths.flatMap fun p => lastNameWithout ending p ++ ['\n'])
  | [path], false => .text i (lastName path ++ ['\n'])
  | [path, ending], false => .text i (lastNameWithout ending path ++ ['\n'])
  | _ :: _ :: w :: _, false => .failure i 1 (s!"{i.self}: extra operand {quoted w}" ++ hint i.self)

/-- The path without its last name. -/
def directoryName (path : List Char) : List Char :=
  match withoutSlashes path with
  | [] => if path.isEmpty then ['.'] else ['/']
  | p =>
    let front := (p.reverse.dropWhile (· != '/')).reverse
    if front.isEmpty then ['.']
    else
      match withoutSlashes front with
      | [] => ['/']
      | d => d

/-- Prints paths without their last names. -/
def dirName (i : Invocation) : Reply :=
  if i.arguments.isEmpty then .failure i 1 (s!"{i.self}: missing operand" ++ hint i.self)
  else .text i (i.arguments.flatMap fun p => directoryName p ++ ['\n'])

/-- Prints the working directory. -/
def pwd (i : Invocation) : Reply :=
  .text i (ofString ("/" ++ Path.ofNames i.files.workingDirectory) ++ ['\n'])

/-- Prints the variables. -/
def printEnvironment (i : Invocation) : Reply :=
  if i.arguments.isEmpty then
    .text i (i.environment.flatMap fun v => ofString v.1 ++ '=' :: v.2 ++ ['\n'])
  else
    let found := i.arguments.map fun w => i.environment.get? (toName w)
    { Reply.text i ((found.filterMap id).flatMap (· ++ ['\n'])) with
      status := if found.all Option.isSome then 0 else 1 }

/-- The name of the user. -/
def userName (i : Invocation) : Reply :=
  .text i (ofString "root\n")

end Streamkeeper.StandIn.Shell.Tool
