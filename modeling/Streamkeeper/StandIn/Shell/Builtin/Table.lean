import Streamkeeper.StandIn.Shell.Builtin.Flow
import Streamkeeper.StandIn.Shell.Builtin.Places
import Streamkeeper.StandIn.Shell.Builtin.Signals
import Streamkeeper.StandIn.Shell.Builtin.Variables
import Streamkeeper.StandIn.Shell.Reading
import Streamkeeper.StandIn.Shell.Search

/-!
The builtins by their names, and what a name means.

Special builtins matter more: a mistake in one of them ends the script, and what is assigned before
them stays.
-/

namespace Streamkeeper.StandIn.Shell

/-- What a builtin does: something of its own, or something with scripts and programs. -/
inductive Builtin.Action where
  | own (run : List (List Char) → Run Nat)
  /-- Runs its arguments as a script. -/
  | evaluate
  /-- Runs a file as a part of the script. -/
  | source
  /-- Becomes a program, or changes descriptors for good. -/
  | become
  /-- Runs a command that is no function, or tells what a name means. -/
  | command

/-- A command that belongs to the language. -/
structure Builtin where
  isSpecial : Bool
  /-- Are assignments among its arguments kept whole? -/
  takesAssignments : Bool
  action : Builtin.Action

namespace Builtin

/-- What a name means. -/
inductive Meaning where
  | keyword
  | substitute (value : List Char)
  | function
  | builtin (isSpecial : Bool)
  /-- A program, and whether it was found before. -/
  | program (path : List Char) (remembered : Bool)

/-- A special builtin. -/
def special (run : List (List Char) → Run Nat) : Builtin := ⟨true, false, .own run⟩

/-- A special builtin that takes assignments. -/
def assigner (run : List (List Char) → Run Nat) : Builtin := ⟨true, true, .own run⟩

/-- A builtin that is not special. -/
def regular (run : List (List Char) → Run Nat) : Builtin := ⟨false, false, .own run⟩

/-! ### Other names for commands -/

/-- A line that sets another name. -/
def aliasLine (name : String) (value : List Char) : List Char :=
  ofString name ++ '=' :: quote value

/-- Sets or shows other names for commands. -/
def defineAliases : List (List Char) → Run Nat
  | [] => do
    let entries := (← get).aliases.mergeSort fun a b => decide (a.1 ≤ b.1)
    for (name, value) in entries do printLine (aliasLine name value)
    return 0
  | args => do
    let mut status := 0
    for w in args do
      let (name, value) := splitAssignment w
      match value with
      | some v =>
        if name.isEmpty then
          modify (·.writeAnyway 2 (.ofString s!"alias: {toName w} not found\n"))
          status := 1
        else modify fun s => { s with aliases := s.aliases.set (toName name) v }
      | none =>
        match (← get).aliases.get? (toName name) with
        | some v => printLine (aliasLine (toName name) v)
        | none =>
          modify (·.writeAnyway 2 (.ofString s!"alias: {toName w} not found\n"))
          status := 1
    return status

/-- Takes other names for commands away. -/
def unalias (args : List (List Char)) : Run Nat := do
  let (fs, names) ← readFlags [('a', false)] args
  if !fs.isEmpty then
    modify fun s => { s with aliases := [] }
    return 0
  else
    let mut status := 0
    for w in names do
      if (← get).aliases.has (toName w) then
        modify fun s => { s with aliases := s.aliases.remove (toName w) }
      else
        modify (·.writeAnyway 2 (.ofString s!"unalias: {toName w} not found\n"))
        status := 1
    return status

/-- Remembers where programs are, shows what is remembered, or forgets it. -/
def hash (args : List (List Char)) : Run Nat := do
  let (fs, names) ← readFlags [('r', false), ('v', false)] args
  if fs.any (·.letter == 'r') then
    modify fun s => { s with remembered := [] }
    return 0
  else if names.isEmpty then
    let s ← get
    for name in s.remembered do
      match Search.program s.files (Search.pathOf s) name.toList with
      | .ok path => printLine path
      | .error _ => pure ()
    return 0
  else
    let mut status := 0
    for w in names do
      let s ← get
      match Search.program s.files (Search.pathOf s) w with
      | .ok _ =>
        modify fun s => { s with remembered := toName w :: s.remembered.filter (· != toName w) }
      | .error _ =>
        modify (·.complain s!"{toName w}: not found")
        status := 1
    return status

/-- The builtins, but for the one that tells what names mean. -/
def most : List (String × Builtin) :=
  [(".", ⟨true, false, .source⟩), (":", special succeed), ("[", regular bracket),
    ("alias", ⟨false, true, .own defineAliases⟩), ("bg", regular resume), ("break", special breakOff),
    ("cd", regular cd), ("chdir", regular cd), ("command", ⟨false, false, .command⟩),
    ("continue", special again), ("echo", regular echo), ("eval", ⟨true, false, .evaluate⟩),
    ("exec", ⟨true, false, .become⟩), ("exit", special exit), ("export", assigner publish),
    ("false", regular failAlways), ("fg", regular resume), ("getopts", regular getOption),
    ("hash", regular hash), ("jobs", regular showJobs), ("kill", regular kill),
    ("local", assigner makeLocals), ("printf", regular printf), ("pwd", regular pwd),
    ("read", regular read), ("readonly", assigner readOnly), ("return", special comeBack),
    ("set", special configure), ("shift", special shift), ("test", regular test),
    ("times", special times), ("trap", special trap), ("true", regular succeed),
    ("ulimit", regular ulimit), ("umask", regular umask), ("unalias", regular unalias),
    ("unset", special unset), ("wait", regular wait)]

/-- The name of the builtin that tells what names mean. -/
def typeName : String := "type"

/-- What a name means to the script, with programs looked for in the directories of `path`. -/
def meaning? (s : State) (path : List Char) (name : List Char) : Option Meaning :=
  let key := toName name
  if Token.keywords.contains key then some .keyword
  else
    match s.aliases.get? key with
    | some value => some (.substitute value)
    | none =>
      if s.functions.has key then some .function
      else
        match most.lookup key with
        | some b => some (.builtin b.isSpecial)
        | none =>
          if key = typeName then some (.builtin false)
          else if name.contains '/' then
            if (s.files.stat key).isOk then some (.program name false) else none
          else
            match Search.program s.files path name with
            | .ok path => some (.program path (s.remembered.contains key))
            | .error _ => none

/-- A meaning in words. -/
def Meaning.sentence : Meaning → List Char
  | .keyword => ofString "is a shell keyword"
  | .substitute value => ofString "is an alias for " ++ value
  | .function => ofString "is a shell function"
  | .builtin isSpecial => ofString (if isSpecial then "is a special shell builtin" else "is a shell builtin")
  | .program path remembered =>
    ofString (if remembered then "is a tracked alias for " else "is ") ++ path

/-- Tells what a name means, in words or as a command. -/
def describe (inWords : Bool) (path name : List Char) : Run Nat := do
  let s ← get
  match meaning? s path name with
  | none =>
    if inWords then printLine (name ++ ofString ": not found")
    return 127
  | some m =>
    if inWords then printLine (name ++ ' ' :: m.sentence)
    else
      match m with
      | .substitute value => printLine (ofString "alias " ++ aliasLine (toName name) value)
      | .program path _ => printLine path
      | _ => printLine name
    return 0

/-- Tells what names mean. -/
def type (args : List (List Char)) : Run Nat := do
  let mut status := 0
  for w in args do
    status := status ||| (← describe true (Search.pathOf (← get)) w)
  return status

/-- The builtins. -/
def table : List (String × Builtin) :=
  (typeName, regular type) :: most

end Builtin

end Streamkeeper.StandIn.Shell
