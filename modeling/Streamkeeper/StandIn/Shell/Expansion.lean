import Streamkeeper.StandIn.Shell.Arithmetic
import Streamkeeper.StandIn.Shell.Fields

/-!
Expanding words.

A word becomes segments, from left to right.  Whether a parameter keeps its arguments apart, how values
may be cut and what a tilde means depend on where the word stands, which is its `Surrounding`.
-/

namespace Streamkeeper.StandIn.Shell

/-- Where a word stands. -/
structure Surrounding where
  /-- Is the word cut into fields? -/
  full : Bool
  /-- Are there quotes around it? -/
  quoted : Bool
  /-- Does it stand in for a value, so that its own text is cut too? -/
  standsIn : Bool
  /-- Does a tilde at the start mean a home? -/
  tilde : Bool
  /-- Does a tilde after a colon mean one? -/
  tildeAfterColon : Bool

namespace Surrounding

/-- An argument of a command. -/
def argument : Surrounding := ⟨true, false, false, true, false⟩

/-- A word that is not cut. -/
def text : Surrounding := ⟨false, false, false, true, false⟩

/-- The value of an assignment. -/
def value : Surrounding := ⟨false, false, false, true, true⟩

/-- A text that follows a command, or an expression. -/
def document : Surrounding := ⟨false, true, false, false, false⟩

/-- An expression between parentheses. -/
def expression : Surrounding := ⟨false, false, false, false, false⟩

end Surrounding

namespace Expansion

/-- Runs a nested script and gives what it wrote. -/
abbrev Substitution := Command → Run (List Char)

/-- Drops line feeds at the end. -/
def dropLineEnds (cs : List Char) : List Char :=
  (cs.reverse.dropWhile (· == '\n')).reverse

/-- The separators of fields. -/
def separators (s : State) : List Char :=
  s.separators?.getD [' ', '\t', '\n']

/-- The letters of the options, in the order in which they are shown. -/
def optionLetters : List Char :=
  ['u', 'b', 'a', 'C', 'E', 'V', 'v', 'x', 's', 'n', 'm', 'i', 'I', 'f', 'e']

/-- The value of a parameter other than all arguments. -/
def parameter? (s : State) (name : String) : Option (List Char) :=
  match name with
  | "#" => some (ofNumber s.arguments.length)
  | "?" => some (ofNumber s.status)
  | "$" => some (ofNumber s.own)
  | "!" => s.lastJob.map ofNumber
  | "-" => some (optionLetters.filter s.has)
  | "0" => some (ofString s.name)
  | _ =>
    if name.toList.all Char.isDigit then
      match Nat.ofDigitChars 10 name.toList 0 with
      | 0 => some (ofString s.name)
      | n + 1 => s.arguments[n]?
    else s.value? name

/-- Is it the list of all arguments? -/
def isAll (name : String) : Bool :=
  name == "@" || name == "*"

/-- All arguments in one text. -/
def joined (s : State) : List Char :=
  match s.separators? with
  | none => [' '].intercalate s.arguments
  | some seps => (seps.take 1).intercalate s.arguments

/-- The segments of all arguments. -/
def allSegments (s : State) (w : Surrounding) (quoted : Bool) (name : String) : List Segment :=
  if quoted then
    if name = "@" && w.full then
      if s.arguments.isEmpty then [] else [.arguments s.arguments]
    else Segment.ofQuoted (joined s)
  else if w.full then
    let separator := if s.separators?.isSome then '\x00' else ' '
    [.divisible ([separator].intercalate s.arguments)]
  else [.divisible (joined s)]

/-- The segments of a value. -/
def valueSegments (quoted : Bool) (value : List Char) : List Segment :=
  if quoted then Segment.ofQuoted value else [.divisible value]

/-- The home of a user. -/
def homeOf? (s : State) (user : List Char) : Option (List Char) :=
  match user with
  | [] => s.value? "HOME"
  | ['r', 'o', 'o', 't'] => some (ofString "/root")
  | _ => none

/-- The user that the parts after a tilde name, and the parts after that. -/
def user? (afterColon : Bool) : Word → Option (List Char × Word)
  | [] => some ([], [])
  | .char c false :: rest =>
    if c = '/' ∨ (c = ':' ∧ afterColon = true) then some ([], .char c false :: rest)
    else (user? afterColon rest).map fun r => (c :: r.1, r.2)
  | _ => none

/-- The home that parts begin with, and the parts after it. -/
def tilde? (s : State) (afterColon : Bool) (parts : Word) : Option (List Char × Word) :=
  match parts with
  | .char '~' false :: rest => do
    let (user, rest) ← user? afterColon rest
    let home ← homeOf? s user
    some (home, rest)
  | _ => none

/-- The words for a parameter that has no value. -/
def notSet (name : String) : String :=
  name ++ ": parameter not set"

/-- What the segments of a word are made with: a nested word, and where it stands. -/
abbrev Inner := Surrounding → Word → Run (List Segment)

/-- The text of a nested word. -/
def innerText (inner : Inner) (w : Word) : Run (List Char) := do
  return Segment.text (← inner .text w)

/-- Expands a parameter.  `quoted` says whether it stands between quotes. -/
def parameter (inner : Inner) (w : Surrounding) (quoted : Bool) (name : String)
    (treatment : Treatment) (orEmpty : Bool) (word : Word) : Run (List Segment) := do
  if treatment = .unknown then Run.fail "Bad substitution"
  else
    let s ← get
    let text? : Option (List Char) := if isAll name then some (joined s) else parameter? s name
    let isPresent : Bool := match text? with
      | some v => !(orEmpty && v.isEmpty)
      | none => false
    let whole (s : State) : List Segment :=
      if isAll name then allSegments s w quoted name
      else valueSegments quoted ((parameter? s name).getD [])
    let instead : Run (List Segment) :=
      inner { w with quoted := quoted, standsIn := true, tilde := true } word
    let demanded : Run Unit := do
      if !isPresent && s.has 'u' then Run.fail (notSet name)
    let trimmed (f : List Pattern → List Char → List Char) : Run (List Segment) := do
      demanded
      match text? with
      | none => return []
      | some v =>
        let ss ← inner .text word
        return valueSegments quoted (f (Pattern.ofText (Segment.glyphs ss)) v)
    match treatment with
    | .plain =>
      demanded
      return whole s
    | .length =>
      demanded
      return valueSegments quoted (ofNumber (text?.getD []).length)
    | .default => if isPresent then return whole s else instead
    | .alternative => if isPresent then instead else return []
    | .assign =>
      if isPresent then return whole s
      else
        Run.assign name (← innerText inner word) false
        return whole (← get)
    | .demand =>
      if isPresent then return whole s
      else if word.isEmpty then Run.fail (notSet name ++ (if orEmpty then " or null" else ""))
      else Run.fail s!"{name}: {toName (← innerText inner word)}"
    | .dropStart longest => trimmed fun p v => Pattern.dropStart p longest v
    | .dropEnd longest => trimmed fun p v => Pattern.dropEnd p longest v
    | .unknown => return []

/-- Is this the list of all arguments between quotes of its own? -/
def quotedArguments? : Word → Option Word
  | .mark :: .parameter "@" .plain false [] :: .mark :: rest => some rest
  | _ => none

/-- Characters that may be cut, put before other segments. -/
def cutChar (c : Char) : List Segment → List Segment
  | .divisible cs :: rest => .divisible (c :: cs) :: rest
  | ss => .divisible [c] :: ss

/-- Expands parts one after the other.  Words stand inside each other at most `depth` deep. -/
def parts (run : Substitution) : (depth : Nat) → Inner
  | 0 => fun _ _ => return []
  | depth + 1 => fun w word =>
    let inner := parts run depth
    let rec go (inQuotes : Bool) (mayBeTilde : Bool) : (fuel : Nat) → Word → Run (List Segment)
      | 0, _ => return []
      | _, [] => return []
      | fuel + 1, p :: rest => do
        let quoted := w.quoted || inQuotes
        let home := tilde? (← get) w.tildeAfterColon (p :: rest)
        match if mayBeTilde && !inQuotes then home else none with
        | some (home, rest) => return Segment.ofQuoted home ++ (← go inQuotes false fuel rest)
        | none =>
          match if inQuotes then none else quotedArguments? (p :: rest) with
          | some rest =>
            let ss := allSegments (← get) w true "@"
            return ss ++ (← go inQuotes false fuel rest)
          | none =>
            match p with
            | .mark => return .mark :: (← go (!inQuotes) false fuel rest)
            | .char c q =>
              let colon := w.tildeAfterColon && c == ':' && !q && !quoted
              let ss ← go inQuotes colon fuel rest
              if w.standsIn && !quoted && !q then
                match rest with
                | .char _ false :: _ => return cutChar c ss
                | _ => return .divisible [c] :: ss
              else return .fixed (c, q || quoted) :: ss
            | .parameter name treatment orEmpty word =>
              let ss ← parameter inner w quoted name treatment orEmpty word
              return ss ++ (← go inQuotes false fuel rest)
            | .command c =>
              let text ← match c with
                | some c => run c
                | none => pure []
              return valueSegments quoted (dropLineEnds text) ++ (← go inQuotes false fuel rest)
            | .arithmetic expression =>
              let source ← innerText (fun _ e => inner .expression e) expression
              let n ← Arithmetic.eval source
              return valueSegments quoted (toString n).toList ++ (← go inQuotes false fuel rest)
    go false w.tilde (word.length + 1) word

/-- How deep words may stand inside each other. -/
def depthLimit : Nat := 10000

/-- The segments of a word. -/
def segments (run : Substitution) (w : Surrounding) (word : Word) : Run (List Segment) :=
  parts run depthLimit w word

/-- The text of a word that is not cut. -/
def text (run : Substitution) (w : Surrounding) (word : Word) : Run (List Char) := do
  return Segment.text (← segments run w word)

/-- The pattern of a word. -/
def pattern (run : Substitution) (word : Word) : Run (List Pattern) := do
  return Pattern.ofText (Segment.glyphs (← segments run .text word))

/-- The texts of an argument. -/
def fields (run : Substitution) (word : Word) : Run (List (List Char)) := do
  let ss ← segments run .argument word
  let s ← get
  let found := Segment.fields (separators s) ss
  if s.has 'f' then return found.map Glob.text
  else return found.flatMap (Glob.expand s.files)

end Expansion

end Streamkeeper.StandIn.Shell
