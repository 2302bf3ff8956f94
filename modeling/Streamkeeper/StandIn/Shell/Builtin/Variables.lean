import Streamkeeper.StandIn.Shell.Builtin.Flags
import Streamkeeper.StandIn.Shell.Expansion
import Streamkeeper.StandIn.Shell.Switches

/-!
Builtins for variables, arguments and switches.
-/

namespace Streamkeeper.StandIn.Shell.Builtin

/-- Splits an assignment at its first equals sign. -/
def splitAssignment (w : List Char) : List Char × Option (List Char) :=
  let name := w.takeWhile (· != '=')
  match w.drop name.length with
  | _ :: value => (name, some value)
  | [] => (name, none)

/-- The variables in the order of their names, as lines that set them. -/
def listing (front : String) (s : State) (keep : Variable → Bool) : List Char :=
  let vs := (s.bindings.filter fun v => keep v.2).mergeSort fun a b => decide (a.1 ≤ b.1)
  vs.flatMap fun v =>
    let value := match v.2.value with
      | some x => '=' :: quote x
      | none => []
    ofString front ++ ofString v.1 ++ value ++ ['\n']

/-- Changes how a variable is marked. -/
def mark (name : String) (f : Variable → Variable) : Run Unit := do
  let s ← get
  if !isName (ofString name) then Run.fail s!"{name}: bad variable name"
  else
    let v := (s.bindings.get? name).getD ⟨none, false, false⟩
    set { s with bindings := s.bindings.set name (f v) }

/-- Marks variables, and sets those that have a value; without names it shows what is marked. -/
def marking (front : String) (isMarked : Variable → Bool) (f : Variable → Variable)
    (args : List (List Char)) : Run Nat := do
  let (fs, names) ← readFlags [('p', false)] args
  if !fs.isEmpty || names.isEmpty then
    Run.print (.ofChars (listing (front ++ " ") (← get) isMarked))
  else
    for w in names do
      let (name, value) := splitAssignment w
      match value with
      | some v => Run.assign (toName name) v false
      | none => pure ()
      mark (toName name) f
  return 0

/-- Marks variables for other programs. -/
def publish : List (List Char) → Run Nat :=
  marking "export" (·.exported) fun v => { v with exported := true }

/-- Protects variables. -/
def readOnly : List (List Char) → Run Nat :=
  marking "readonly" (·.readOnly) fun v => { v with readOnly := true }

/-- Makes variables local to the running function. -/
def makeLocals (args : List (List Char)) : Run Nat := do
  if (← get).locals.isEmpty then Run.fail "not in a function"
  else
    for w in args do
      if w = ['-'] then
        modify fun s =>
          match s.locals with
          | frame :: frames =>
            let kept := (Run.optionsName, some (⟨some s.options, false, false⟩ : Variable))
            { s with locals := (kept :: frame) :: frames }
          | [] => s
      else
        let (name, value) := splitAssignment w
        Run.makeLocal (toName name)
        match value with
        | some v => Run.assign (toName name) v false
        | none => if !isName name then Run.fail s!"{toName name}: bad variable name"
    return 0

/-- Takes variables or functions away. -/
def unset (args : List (List Char)) : Run Nat := do
  let (fs, names) ← readFlags [('v', false), ('f', false)] args
  let ofFunctions : Bool := (fs.getLast?.map (·.letter)) == some 'f'
  for w in names do
    let name := toName w
    if ofFunctions then modify fun s => { s with functions := s.functions.remove name }
    else if !isName w then Run.fail s!"{name}: bad variable name"
    else Run.unassign name
  return 0

/-- Sets switches and arguments; without words it shows the variables. -/
def configure (args : List (List Char)) : Run Nat := do
  let s ← get
  if args.isEmpty then
    Run.print (.ofChars (listing "" s fun v => v.value.isSome))
    return 0
  else
    match Switches.read false s.options args with
    | .error message => Run.fail message
    | .ok w =>
      Run.print (.ofChars w.listing)
      -- There is nobody who could look after jobs.
      if w.on.contains 'm' then modify (·.complain State.noTerminal)
      modify fun s =>
        { s with
          options := w.on.filter (· != 'm')
          arguments := if w.rest.isEmpty && !w.resets then s.arguments else w.rest
          optionIndex := if w.rest.isEmpty && !w.resets then s.optionIndex else 1
          optionOffset := if w.rest.isEmpty && !w.resets then s.optionOffset else none }
      return 0

/-- Drops arguments at the front. -/
def shift (args : List (List Char)) : Run Nat := do
  let n ← match args with
    | w :: _ => number w
    | [] => pure 1
  let s ← get
  if n > s.arguments.length then Run.fail "can't shift that many"
  else
    modify fun s =>
      { s with arguments := s.arguments.drop n, optionIndex := 1, optionOffset := none }
    return 0

/-! ### Reading lines -/

/-- Is the glyph a separator? -/
def separates (separators : List Char) (g : Glyph) : Bool :=
  !g.2 && separators.contains g.1

/-- Is it one that carries no field between it and others of its kind? -/
def isBlank (separators : List Char) (g : Glyph) : Bool :=
  separates separators g && Segment.isBlankSeparator g.1

/-- What the last name gets: a single field without what ends it, or everything without blanks at
the end. -/
def lastField (separators : List Char) (gs : List Glyph) : List Glyph :=
  let field := gs.takeWhile fun g => !separates separators g
  let rest := gs.drop field.length
  let marks := rest.filter fun g => !isBlank separators g
  if rest.all (separates separators) && marks.length ≤ 1 then field
  else (gs.reverse.dropWhile (isBlank separators)).reverse

/-- The fields of a line for a number of names. -/
def lineFields (separators : List Char) : (names : Nat) → List Glyph → List (List Char)
  | 0, _ => []
  | n + 1, gs =>
    let gs := gs.dropWhile (isBlank separators)
    if gs.isEmpty then []
    else if n = 0 then [Glob.text (lastField separators gs)]
    else
      let field := gs.takeWhile fun g => !separates separators g
      let rest := (gs.drop field.length).dropWhile (isBlank separators)
      let rest := match rest with
        | g :: more => if separates separators g then more else rest
        | [] => []
      Glob.text field :: lineFields separators n rest

/-- A line that is being read. -/
structure LineDraft where
  glyphs : List Glyph
  /-- Does a backslash wait for its character? -/
  escaped : Bool

/-- Takes octets up to the end of the line: how many, the line so far, and whether it has ended. -/
def takeLine (raw : Bool) : Octets → LineDraft → Nat → Nat × LineDraft × Bool
  | [], d, n => (n, d, false)
  | b :: bs, d, n =>
    let c := Char.ofNat b.toNat
    if b = 0 then takeLine raw bs d (n + 1)
    else if d.escaped then
      if c = '\n' then takeLine raw bs { d with escaped := false } (n + 1)
      else takeLine raw bs ⟨(c, true) :: d.glyphs, false⟩ (n + 1)
    else if c = '\\' && !raw then takeLine raw bs { d with escaped := true } (n + 1)
    else if c = '\n' then (n + 1, d, true)
    else takeLine raw bs { d with glyphs := (c, false) :: d.glyphs } (n + 1)

/-- The octets that are looked at first in a supply without end. -/
def lookahead : Nat := 4096

/-- Reads a line, and says whether it was complete. -/
def readLine (raw : Bool) : (fuel : Nat) → LineDraft → Run (LineDraft × Bool)
  | 0, d => return (d, false)
  | fuel + 1, d => do
    match ← Run.available 0 with
    | .error _ => return (d, false)
    | .ok (id, supply, whole) =>
      let bs := if supply.isEndless then supply.take (supply.octets.length + lookahead)
        else supply.octets
      let (n, d, complete) := takeLine raw bs d 0
      Run.consume id n
      if complete then return (d, true)
      else if whole && !supply.isEndless then return (d, false)
      else readLine raw fuel d

/-- Reads a line into variables. -/
def read (args : List (List Char)) : Run Nat := do
  let (fs, names) ← readFlags [('p', true), ('r', false)] args
  if names.isEmpty then Run.fail "arg count"
  else
    let raw : Bool := fs.any fun f => f.letter == 'r'
    let (d, complete) ← readLine raw Run.pieceLimit ⟨[], false⟩
    let separators := Expansion.separators (← get)
    let found := lineFields separators names.length d.glyphs.reverse
    for (name, i) in names.zipIdx do
      Run.assign (toName name) ((found[i]?).getD []) false
    return if complete then 0 else 1

/-! ### Options of scripts -/

/-- What a look at the next option gives. -/
structure OptionStep where
  /-- The option, or a sign that none was found. -/
  letter : Char
  argument : Option (List Char)
  /-- Is `argument` to be taken away? -/
  forgets : Bool
  message : Option String
  /-- The argument at which to go on, and how far it was read. -/
  index : Nat
  offset : Option Nat
  ended : Bool

/-- Looks at the next option among words. -/
def nextOption (allowed : List Char) (words : List (List Char)) (index : Nat)
    (offset : Option Nat) : OptionStep :=
  let current := if index ≤ 1 then [] else (words[index - 2]?).getD []
  let atEnd (index : Nat) : OptionStep := ⟨'?', none, false, none, index, none, true⟩
  let option (p : List Char) (index : Nat) : OptionStep :=
    match p with
    | [] => atEnd index
    | c :: rest =>
      let offset? (p : List Char) : Option Nat :=
        some (((words[index - 2]?).getD []).length - p.length)
      let silent : Bool := allowed.head? == some ':'
      let known (i : Nat) : Bool := allowed[i]? == some c && c != ':'
      match (List.range allowed.length).find? known with
      | none =>
        if silent then ⟨'?', some [c], false, none, index, offset? rest, false⟩
        else
          ⟨'?', none, true, some s!"Illegal option -{toName [c]}", index, offset? rest, false⟩
      | some i =>
        if allowed[i + 1]? = some ':' then
          if !rest.isEmpty then ⟨c, some rest, false, none, index, none, false⟩
          else
            match words[index - 1]? with
            | some value => ⟨c, some value, false, none, index + 1, none, false⟩
            | none =>
              if silent then ⟨':', some [c], false, none, index, none, false⟩
              else
                ⟨'?', none, true, some s!"No arg for -{toName [c]} option", index, none, false⟩
        else ⟨c, some [], false, none, index, offset? rest, false⟩
  let left := match offset with
    | some n => if current.length < n then [] else current.drop n
    | none => []
  if !left.isEmpty then option left index
  else
    match words[index - 1]? with
    | some ['-', '-'] => atEnd (index + 1)
    | some ('-' :: c :: rest) => option (c :: rest) (index + 1)
    | _ => atEnd index

/-- Reads the next option of the script's arguments, or of other words. -/
def getOption (args : List (List Char)) : Run Nat := do
  match args with
  | allowed :: name :: others =>
    let s ← get
    let words := if others.isEmpty then s.arguments else others
    let (index, offset) :=
      if words.length + 1 < s.optionIndex then (1, none) else (s.optionIndex, s.optionOffset)
    let o := nextOption allowed words index offset
    match o.message with
    | some m => modify (·.writeAnyway 2 (.ofString (m ++ "\n")))
    | none => pure ()
    match o.argument with
    | some a => Run.assign "OPTARG" a false
    | none => if o.forgets then Run.unassign "OPTARG"
    Run.assign "OPTIND" (ofNumber o.index) false
    Run.assign (toName name) [o.letter] false
    modify fun s => { s with optionIndex := o.index, optionOffset := o.offset }
    return if o.ended then 1 else 0
  | _ => Run.fail "Usage: getopts optstring var [arg...]"

end Streamkeeper.StandIn.Shell.Builtin
