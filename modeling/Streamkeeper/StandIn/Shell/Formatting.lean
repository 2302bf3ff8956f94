import Streamkeeper.StandIn.Shell.Arithmetic
import Streamkeeper.StandIn.Shell.Real

/-!
Formatted output: escapes, and directives that take arguments.

A format is used again as long as it takes arguments and some are left.
-/

namespace Streamkeeper.StandIn.Shell

/-- Is the character an octal digit? -/
def isOctalDigit (c : Char) : Bool :=
  '0' ≤ c && c ≤ '7'

/-- The character with an octal code, of which the last eight bits count. -/
def octalChar (digits : List Char) : Char :=
  Char.ofNat (Nat.ofDigitChars 8 digits 0 % 256)

/-- The control characters that have a letter. -/
def escapeLetters : List (Char × Char) :=
  [('\\', '\\'), ('a', '\x07'), ('b', '\x08'), ('f', '\x0c'), ('n', '\n'), ('r', '\r'),
    ('t', '\t'), ('v', '\x0b'), ('e', '\x1b')]

/-- The rules of the language and of the tools on formats. -/
structure Dialect where
  precision : Precision
  /-- Are there escapes for hexadecimal codes and quotes? -/
  wide : Bool

namespace Dialect

/-- The rules of the language. -/
def language : Dialect := ⟨.double, false⟩

/-- The rules of the tools. -/
def tools : Dialect := ⟨.extended, true⟩

end Dialect

/-- The character that a wide escape denotes, and the rest. -/
def wideEscape? (cs : List Char) : Option (Char × List Char) :=
  match cs with
  | '"' :: rest => some ('"', rest)
  | 'x' :: rest =>
    let digits := (rest.take 2).takeWhile fun c => !(Arithmetic.digitsIn 16 [c]).isEmpty
    if digits.isEmpty then none
    else some (Char.ofNat (Arithmetic.valueOf 16 digits), rest.drop digits.length)
  | _ => none

/-- The character that an escape after a backslash denotes, and the rest.  A backslash that begins no
escape stands for itself. -/
def escapeAfter (wide : Bool) (cs : List Char) : Char × List Char :=
  match if wide then wideEscape? cs else none with
  | some r => r
  | none =>
    match cs with
    | c :: rest =>
      if isOctalDigit c then
        let digits := (cs.take 3).takeWhile isOctalDigit
        (octalChar digits, cs.drop digits.length)
      else
        match escapeLetters.lookup c with
        | some d => (d, rest)
        | none => ('\\', cs)
    | [] => ('\\', [])

/-- A text with its escapes replaced, and whether output ends there. -/
def unescape (wide : Bool) : (fuel : Nat) → List Char → List Char × Bool
  | 0, _ => ([], false)
  | _, [] => ([], false)
  | fuel + 1, '\\' :: cs =>
    match cs with
    | 'c' :: _ => ([], true)
    | _ =>
      let cs := match cs with
        | '0' :: d :: rest => if isOctalDigit d then d :: rest else cs
        | _ => cs
      let (c, rest) := escapeAfter wide cs
      let (more, stopped) := unescape wide fuel rest
      (c :: more, stopped)
  | fuel + 1, c :: cs =>
    let (more, stopped) := unescape wide fuel cs
    (c :: more, stopped)

/-- What the builtin that prints its arguments writes. -/
def echo (args : List (List Char)) : List Char :=
  let (newline, args) := match args with
    | ['-', 'n'] :: rest => (false, rest)
    | _ => (true, args)
  let text := [' '].intercalate args
  let (cs, stopped) := unescape false (text.length + 1) text
  if newline && !stopped then cs ++ ['\n'] else cs

/-! ### Directives -/

/-- How a directive lays out its text. -/
structure Layout where
  left : Bool
  zero : Bool
  plus : Bool
  space : Bool
  alternate : Bool
  width : Nat
  precision : Option Nat

/-- No layout. -/
def Layout.plain : Layout := ⟨false, false, false, false, false, 0, none⟩

/-- Fills a text up to the width. -/
def Layout.pad (l : Layout) (cs : List Char) : List Char :=
  let fill := List.replicate (l.width - cs.length) ' '
  if l.left then cs ++ fill else fill ++ cs

/-- A number, after its sign or mark; `zeros` says whether zeros may fill it up. -/
def Layout.number (l : Layout) (zeros : Bool) (mark digits : List Char) : List Char :=
  if l.zero && !l.left && zeros then
    mark ++ List.replicate (l.width - mark.length - digits.length) '0' ++ digits
  else l.pad (mark ++ digits)

/-- An integer, with at least as many digits as the precision asks for. -/
def Layout.integer (l : Layout) (mark digits : List Char) : List Char :=
  match l.precision with
  | some p =>
    let digits := if p = 0 ∧ digits = ['0'] then [] else digits
    l.number false mark (List.replicate (p - digits.length) '0' ++ digits)
  | none => l.number true mark digits

/-- The sign that is shown before a number. -/
def Layout.sign (l : Layout) (negative : Bool) : List Char :=
  if negative then ['-'] else if l.plus then ['+'] else if l.space then [' '] else []

/-- The flags of a directive. -/
def flags (l : Layout) : List Char → Layout × List Char
  | '-' :: cs => flags { l with left := true } cs
  | '0' :: cs => flags { l with zero := true } cs
  | '+' :: cs => flags { l with plus := true } cs
  | ' ' :: cs => flags { l with space := true } cs
  | '#' :: cs => flags { l with alternate := true } cs
  | cs => (l, cs)

/-- What is wrong with a format or its arguments. -/
inductive FormatFault where
  | notANumber (w : List Char)
  | partlyANumber (w : List Char)
  | outOfRange (w : List Char)
  | noDirective (shown : List Char)
  | unfinished
deriving Repr, DecidableEq

namespace FormatFault

/-- The words of the language. -/
def message : FormatFault → String
  | .notANumber w => s!"{toName w}: expected numeric value"
  | .partlyANumber w => s!"{toName w}: not completely converted"
  | .outOfRange w => s!"{toName w}: Numerical result out of range"
  | .noDirective shown => s!"{toName shown}: invalid directive"
  | .unfinished => "missing format character"

/-- The words of the tools. -/
def toolMessage : FormatFault → String
  | .notANumber w => s!"'{toName w}': expected a numeric value"
  | .partlyANumber w => s!"'{toName w}': value not completely converted"
  | .outOfRange w => s!"'{toName w}': Numerical result out of range"
  | .noDirective shown => s!"{toName shown}: invalid conversion specification"
  | .unfinished => "%: invalid conversion specification"

end FormatFault

/-- What is wrong with a word that should be a number, given what of it was no part of a number. -/
def conversionFault (w rest : List Char) (outside : Bool) : Option FormatFault :=
  if rest.isEmpty then if outside then some (.outOfRange w) else none
  else if rest = w then some (.notANumber w)
  else some (.partlyANumber w)

/-- The integer that a word denotes for a directive, and what is wrong with the word. -/
def integerValue (least most : Int) (w : List Char) : Int × Option FormatFault :=
  match w with
  | '\'' :: cs => ((cs.headD '\x00').toNat, none)
  | '"' :: cs => ((cs.headD '\x00').toNat, none)
  | _ =>
    let (sign, cs) : Int × List Char := match w.dropWhile isSpace with
      | '-' :: rest => (-1, rest)
      | '+' :: rest => (1, rest)
      | rest => (1, rest)
    if (cs.head?.map Char.isDigit).getD false then
      let (n, rest) := Arithmetic.literal cs
      let v := sign * (n : Int)
      (max least (min most v), conversionFault w rest (v < least || most < v))
    else (0, conversionFault w w false)

/-- The number that a word denotes for a directive, and what is wrong with the word. -/
def realValue (p : Precision) (w : List Char) : Real × Option FormatFault :=
  let ofCode (cs : List Char) : Real :=
    ⟨false, .finite ⟨(cs.headD '\x00').toNat, 1⟩⟩
  match w with
  | '\'' :: cs => (ofCode cs, none)
  | '"' :: cs => (ofCode cs, none)
  | _ =>
    match Real.ofChars? p w with
    | some (r, outside, rest) => (r, conversionFault w rest outside)
    | none => (ofCode [], conversionFault w w false)

/-- What a format has given so far. -/
structure Printed where
  text : List Char
  args : List (List Char)
  complaints : List FormatFault
  /-- Does the output end here, by what it says or by a mistake? -/
  stopped : Bool
  mistaken : Bool
  /-- Did a directive take an argument? -/
  asked : Bool

/-- The next argument. -/
def Printed.next (p : Printed) : List Char × Printed :=
  (p.args.headD [], { p with args := p.args.tail, asked := p.asked || !p.args.isEmpty })

/-- Adds text. -/
def Printed.add (p : Printed) (cs : List Char) : Printed :=
  { p with text := p.text ++ cs }

/-- Notes a complaint. -/
def Printed.complain (p : Printed) (c : Option FormatFault) : Printed :=
  { p with complaints := p.complaints ++ c.toList }

/-- Ends with a mistake. -/
def Printed.fail (p : Printed) (c : FormatFault) : Printed :=
  { p.complain (some c) with stopped := true, mistaken := true }

/-- The letters of directives for floating-point numbers. -/
def realLetters : List Char := ['e', 'E', 'f', 'F', 'g', 'G']

/-- Carries out a directive; none if there is no such directive. -/
def directive? (d : Dialect) (l : Layout) (c : Char) (p : Printed) : Option Printed :=
  let (w, next) := p.next
  let cut (cs : List Char) : List Char := match l.precision with
    | some n => cs.take n
    | none => cs
  let unsigned (base : Nat) (upper : Bool) (mark : List Char) : Printed :=
    let (n, fault) := integerValue (1 - Arithmetic.words) (Arithmetic.words - 1) w
    let n := (n % Arithmetic.words).toNat
    let digits := Nat.toDigits base n
    let digits := if upper then digits.map Char.toUpper else digits
    (next.add (l.integer (if l.alternate && n != 0 then mark else []) digits)).complain fault
  let signed : Printed :=
    let (n, fault) := integerValue Arithmetic.least Arithmetic.greatest w
    (next.add (l.integer (l.sign (n < 0)) (ofNumber n.natAbs))).complain fault
  match c with
  | 's' => some (next.add (l.pad (cut w)))
  | 'b' =>
    let (cs, stopped) := unescape d.wide (w.length + 1) w
    some { next.add (l.pad (cut cs)) with stopped := stopped }
  | 'c' => some (next.add (l.pad [w.headD '\x00']))
  | 'u' => some (unsigned 10 false [])
  | 'o' => some (unsigned 8 false ['0'])
  | 'x' => some (unsigned 16 false ['0', 'x'])
  | 'X' => some (unsigned 16 true ['0', 'X'])
  | 'd' => some signed
  | 'i' => some signed
  | _ =>
    if realLetters.contains c then
      let (r, fault) := realValue d.precision w
      let isFinite : Bool := match r.magnitude with
        | .finite _ => true
        | _ => false
      let digits := Real.text r.magnitude c l.precision l.alternate
      some ((next.add (l.number isFinite (l.sign r.negative) digits)).complain fault)
    else none

/-- The width or precision that follows: digits, or a star that asks for an argument.  It is below
zero if the argument is. -/
def size (cs : List Char) (p : Printed) : Int × List Char × Printed :=
  match cs with
  | '*' :: rest =>
    let (w, p) := p.next
    let (n, fault) := integerValue (-2147483648) 2147483647 w
    (n, rest, p.complain fault)
  | _ => ((Nat.ofDigitChars 10 (cs.takeWhile Char.isDigit) 0 : Nat), cs.dropWhile Char.isDigit, p)

/-- Goes through a format once. -/
def pass (d : Dialect) : (fuel : Nat) → List Char → Printed → Printed
  | 0, _, p => p
  | _, [], p => p
  | fuel + 1, c :: cs, p =>
    if p.stopped then p
    else if c = '\\' then
      let (c, rest) := escapeAfter d.wide cs
      pass d fuel rest (p.add [c])
    else if c = '%' then
      match cs with
      | '%' :: rest => pass d fuel rest (p.add ['%'])
      | _ =>
        let (l, rest) := flags .plain cs
        let (width, rest, p) := size rest p
        let (places, rest, p) : Option Int × List Char × Printed := match rest with
          | '.' :: rest =>
            let (n, rest, p) := size rest p
            (some n, rest, p)
          | _ => (none, rest, p)
        let l :=
          { l with
            left := l.left || width < 0
            width := width.natAbs
            precision := (places.filter (0 ≤ ·)).map Int.toNat }
        match rest with
        | letter :: after =>
          match directive? d l letter p with
          | some p => pass d fuel after p
          | none =>
            p.fail (.noDirective ('%' :: (cs.take (cs.length - rest.length) ++ [letter])))
        | [] => p.fail .unfinished
    else pass d fuel cs (p.add [c])

/-- Uses a format until the arguments are used up. -/
def printAll (d : Dialect) (format : List Char) : (fuel : Nat) → Printed → Printed
  | 0, p => p
  | fuel + 1, p =>
    let p := pass d (format.length + 1) format { p with asked := false }
    if p.stopped || p.args.isEmpty || !p.asked then p else printAll d format fuel p

/-- What a format and its arguments give. -/
def printFormatted (d : Dialect) (format : List Char) (args : List (List Char)) :
    Printed :=
  printAll d format (args.length + 1) ⟨[], args, [], false, false, false⟩

end Streamkeeper.StandIn.Shell
