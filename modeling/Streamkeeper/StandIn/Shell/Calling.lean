import Streamkeeper.StandIn.Shell.Builtin.Table
import Streamkeeper.StandIn.Shell.Parser
import Streamkeeper.StandIn.Shell.Redirect

/-!
Simple commands before they run: their words, and what they stand for.

The first words decide about the kind of a command, because builtins that assign keep assignments among
their arguments whole.
-/

namespace Streamkeeper.StandIn.Shell

/-- A simple command while its kind is found out. -/
structure Calling where
  args : List (List Char)
  /-- The words that are not expanded yet. -/
  words : List Word
  builtin : Option Builtin
  /-- Is the first builtin a special one?  None if there is no builtin. -/
  special : Option Bool
  /-- Are functions left out? -/
  noFunctions : Bool
  /-- Are programs looked for in the standard directories only? -/
  standardPath : Bool

namespace Calling

/-- Expands words until there is an argument: the arguments, and the words that are left. -/
def fill : List Word → Run (List (List Char) × List Word)
  | [] => return ([], [])
  | w :: ws => do
    match ← Expansion.fields Run.substitute w with
    | [] => fill ws
    | args => return (args, ws)

/-- The builtin that a name stands for, unless a function has the name. -/
def builtin? (s : State) (noFunctions : Bool) (name : List Char) : Option Builtin :=
  let key := toName name
  match Builtin.table.lookup key with
  | some b => if !noFunctions && !b.isSpecial && s.functions.has key then none else some b
  | none => none

/-- Takes the flags of a command that is to be no function away.  None if it runs nothing. -/
def withoutFlags : (fuel : Nat) → Calling → Run (Option Calling)
  | 0, _ => return none
  | fuel + 1, c => do
    let (args, words) ← if c.args.isEmpty then fill c.words else pure (c.args, c.words)
    match args with
    | [] => return none
    | ['-', '-'] :: rest =>
      let (args, words) ← if rest.isEmpty then fill words else pure (rest, words)
      return if args.isEmpty then none else some { c with args := args, words := words }
    | ('-' :: l :: ls) :: rest =>
      if (l :: ls).all (· == 'p') then
        withoutFlags fuel { c with args := rest, words := words, standardPath := true }
      else return none
    | _ => return some { c with args := args, words := words }

/-- Finds out the kind of a command. -/
def classify : (fuel : Nat) → Calling → Run Calling
  | 0, c => return c
  | fuel + 1, c => do
    match c.args with
    | [] => return c
    | name :: rest =>
      match builtin? (← get) c.noFunctions name with
      | none => return { c with builtin := none }
      | some b =>
        let c := { c with builtin := some b, special := c.special.or (some b.isSpecial) }
        match b.action with
        | .command =>
          match ← withoutFlags (c.args.length + c.words.length + 1) { c with args := rest } with
          | some inner => classify fuel { inner with noFunctions := true }
          | none => return c
        | _ => return c

/-- Expands the words after those that decide about the kind of the command. -/
def expandRest (keepsAssignments : Bool) : List Word → Run (List (List Char))
  | [] => return []
  | w :: ws => do
    let args ← match if keepsAssignments then Word.assignment? w else none with
      | some (name, value) => do
        pure [ofString name ++ '=' :: (← Expansion.text Run.substitute .value value)]
      | none => Expansion.fields Run.substitute w
    return args ++ (← expandRest keepsAssignments ws)

/-- Expands the words of a command and finds out its kind. -/
def ofWords (words : List Word) : Run Calling := do
  let (args, rest) ← fill words
  let c ← classify (words.length + 1) ⟨args, rest, none, none, false, false⟩
  let keeps : Bool := (c.builtin.map (·.takesAssignments)).getD false
  return { c with args := c.args ++ (← expandRest keeps c.words), words := [] }

/-- Do assignments before the command last no longer than it? -/
def isLocal (c : Calling) : Bool :=
  !c.args.isEmpty && c.special != some true

/-- Does the command change the script's own process? -/
def becomes (c : Calling) : Bool :=
  match c.builtin with
  | some ⟨_, _, .become⟩ => true
  | _ => false

/-! ### Showing commands -/

/-- Writes a command to standard error as it is run; `before` are the descriptors from before its
redirections. -/
def display (mark : List Char) (before : Table Nat Nat) (words : List (List Char)) : Run Unit :=
  modify fun s =>
    let now := s.descriptors
    let s := (s.withDescriptors before).writeAnyway 2
      (.ofChars (mark ++ [' '].intercalate words ++ ['\n']))
    s.withDescriptors now

/-- The word that a text between double quotes is. -/
def quotedWord (text : List Char) : Word :=
  let nested : Reader (Option Command) := Reader.list (16 * text.length + 64) .optional none
  match (Reader.wordFrom nested (text.length + 2) .ofDocument).run (Reading.ofText text [] 0) with
  | .ok (d, _) => d.parts.reverse
  | .error _ => Word.ofQuoted text

/-- The mark before a command that is shown. -/
def mark : Run (List Char) := do
  let s ← get
  modify fun s => { s with showing := true }
  let mark ← Expansion.text Run.substitute .document (quotedWord ((s.value? "PS4").getD []))
  modify fun s => { s with showing := false }
  return mark

/-- Assigns values before a command, and gives the assignments as they are shown. -/
def assignAll (c : Calling) : List (String × Word) → Run (List (List Char))
  | [] => return []
  | (name, word) :: rest => do
    let value ← Expansion.text Run.substitute .value word
    if c.isLocal then Run.makeLocal name
    Run.assign name value (c.isLocal || (c.becomes && c.args.length > 1))
    return (ofString name ++ '=' :: value) :: (← c.assignAll rest)

end Calling

end Streamkeeper.StandIn.Shell
