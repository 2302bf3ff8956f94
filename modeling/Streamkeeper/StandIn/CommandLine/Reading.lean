import Streamkeeper.CommandLine.Command
import Streamkeeper.Host.Environment
import Streamkeeper.StandIn.CommandLine.Usage

/-!
Reading a command line.

Words are read from left to right.  The value of an option may be attached to it, or be the next
word, which must not begin with a hyphen; it is then taken when the next option or the end comes.
Two hyphens end the options, and nothing can follow them.  The first word of the front that names a
command starts the level of that command.  Of several errors the first in this order is reported:
those of the command's level before what remains to be checked of the front.
-/

namespace Streamkeeper.StandIn.CommandLine

open Streamkeeper.CommandLine (Command Invocation)

/-- The values given at one level. -/
abbrev Given := Table Flag Value

/-- The largest count of a repeated switch. -/
def countLimit : Nat := 255

/-- How far the words of a level were read: the values taken, and an option that waits for its value
or holds one that was not checked yet. -/
structure Progress where
  given : Given
  pending : Option (Flag × Option String)

namespace Progress

/-- Nothing read yet. -/
def initial : Progress := ⟨[], none⟩

/-- Takes the value of an option, which may be given once. -/
def take (g : Given) (f : Flag) (s : String) : Except UsageError Given := do
  if g.has f then .error .repeatedOption
  else
    let value ← Value.read f s
    .ok (g.set f value)

/-- Takes the value of the option that waits. -/
def settle (p : Progress) : Except UsageError Given :=
  match p.pending with
  | none => .ok p.given
  | some (_, none) => .error .badValue
  | some (f, some s) => take p.given f s

/-- Takes a switch. -/
def switch (p : Progress) (f : Flag) : Except UsageError Progress := do
  let g ← p.settle
  match f with
  | .help => .error .helpWanted
  | .version => .error .versionWanted
  | .verbose =>
    let n := match g.get? f with
      | some (.count n) => n
      | _ => 0
    .ok ⟨g.set f (.count (min (n + 1) countLimit)), none⟩
  | _ => if g.has f then .error .repeatedOption else .ok ⟨g.set f .on, none⟩

/-- Takes an option with the value attached to it, if there is one. -/
def option (p : Progress) (f : Flag) (attached : Option String) : Except UsageError Progress := do
  let g ← p.settle
  match attached with
  | none => .ok ⟨g, some (f, none)⟩
  | some s => .ok ⟨← take g f s, none⟩

/-- Takes a word after two hyphens. -/
def long (p : Progress) (level : Level) (word : List Char) : Except UsageError Progress :=
  let name := String.ofList (word.takeWhile (· != '='))
  let attached := match word.dropWhile (· != '=') with
    | [] => none
    | _ :: value => some (String.ofList value)
  match level.long? name with
  | none => .error .unknownArgument
  | some f =>
    if f.isSwitch then
      if attached.isSome then .error .surplusValue else p.switch f
    else p.option f attached

/-- Takes letters after one hyphen: switches, up to an option whose value is the rest. -/
def letters (p : Progress) (level : Level) : List Char → Except UsageError Progress
  | [] => .ok p
  | c :: rest =>
    match level.short? c with
    | none => .error .unknownArgument
    | some f =>
      if f.isSwitch then do
        let p ← p.switch f
        letters p level rest
      else
        match rest with
        | [] => p.option f none
        | '=' :: value => p.option f (some (String.ofList value))
        | value => p.option f (some (String.ofList value))

/-- Does an option wait for its value? -/
def isWaiting (p : Progress) : Bool :=
  match p.pending with
  | some (_, none) => true
  | _ => false

/-- Gives the waiting option its value. -/
def fill (p : Progress) (s : String) : Progress :=
  { p with pending := p.pending.map fun w => (w.1, some s) }

end Progress

/-- The word that asks for help in place of a command. -/
def helpWord : String := "help"

/-- Is the word a command of the level, `help` included? -/
def isCommandWord (level : Level) (word : String) : Bool :=
  match level with
  | .front => (Verb.ofName? word).isSome || word == helpWord
  | .command _ => false

/-- The error of a word that nothing takes. -/
def surplusWord (level : Level) : UsageError :=
  match level with
  | .front => .unknownCommand
  | .command _ => .unknownArgument

/-- The error of the words after two hyphens. -/
def afterHyphens (level : Level) (word : String) : UsageError :=
  if isCommandWord level word then .unknownArgument else surplusWord level

/-- What `help` answers to the words after it: a command may be named, and nothing after it. -/
def help (words : List String) : UsageError :=
  match words with
  | [] => .helpWanted
  | [word] => if isCommandWord .front word then .helpWanted else .unknownCommand
  | _ => .unknownCommand

/-- Reads the words of a level, up to a command at the front. -/
def scan (level : Level) (p : Progress) :
    List String → Except UsageError (Progress × Option (Verb × List String))
  | [] => .ok (p, none)
  | word :: rest =>
    if !p.isWaiting && isCommandWord level word then
      match Verb.ofName? word with
      | some verb => .ok (p, some (verb, rest))
      | none => .error (help rest)
    else
      match word.toList with
      | ['-', '-'] =>
        match rest with
        | [] => .ok (p, none)
        | next :: _ => .error (afterHyphens level next)
      | '-' :: '-' :: cs => do
        let p ← p.long level cs
        scan level p rest
      | '-' :: c :: cs => do
        let p ← p.letters level (c :: cs)
        scan level p rest
      | _ => if p.isWaiting then scan level (p.fill word) rest else .error (surplusWord level)

/-- Checks the variables that stand in for options of a level. -/
def checkVariables (env : Host.Environment) (given : Given) :
    List Flag → Except UsageError Given
  | [] => .ok []
  | f :: rest =>
    match f.environmentName?.bind (Table.get? env) with
    | some s =>
      if given.has f then checkVariables env given rest
      else do
        let value ← Value.read f s
        let others ← checkVariables env given rest
        .ok ((f, value) :: others)
    | none => checkVariables env given rest

/-- What a level gives: the values on the command line, and those of variables. -/
structure Reading where
  given : Given
  fromEnvironment : Given

/-- Ends a level: takes the last value and looks at the variables. -/
def Progress.finish (env : Host.Environment) (level : Level) (p : Progress) :
    Except UsageError Reading := do
  let given ← p.settle
  let fromEnvironment ← checkVariables env given level.options
  .ok ⟨given, fromEnvironment⟩

/-- Reads the words after a command. -/
def readCommand (env : Host.Environment) (verb : Verb) (words : List String) :
    Except UsageError Reading := do
  let level := Level.command verb
  let (p, _) ← scan level .initial words
  let r ← p.finish env level
  if level.required.all fun f => r.given.has f then .ok r else .error .missingOption

/-- Reads a whole command line. -/
def readWords (env : Host.Environment) (words : List String) :
    Except UsageError (Verb × Reading × Reading) := do
  let (p, command) ← scan .front .initial words
  match command with
  | some (verb, rest) =>
    let inner ← readCommand env verb rest
    let outer ← p.finish env .front
    .ok (verb, outer, inner)
  | none =>
    let outer ← p.finish env .front
    if outer.given.isEmpty && outer.fromEnvironment.isEmpty then .error .nothingGiven
    else .error .missingCommand

/-! ### Commands -/

namespace Reading

/-- The value of an option: the command line counts before the variables. -/
def get? (r : Reading) (f : Flag) : Option Value :=
  (r.given.get? f).or (r.fromEnvironment.get? f)

/-- A text value. -/
def text? (r : Reading) (f : Flag) : Option String :=
  match r.get? f with
  | some (.text s) => some s
  | _ => none

/-- The command that the values of its level make up. -/
def command (r : Reading) : Verb → Command
  | .serve =>
    .serve {
      config := r.text? .config
      srcDir := r.text? .srcDir
      instanceIp := r.text? .instanceIp
      instancePort := match r.get? .instancePort with
        | some (.port n) => some n
        | _ => none
      sdkDir := r.text? .sdkDir
      logToStdout := r.given.has .logToStdout }
  | .startSession =>
    .startSession ((r.text? .gameletName).getD "") ((r.text? .dir).getD "")
      (match r.get? .origin with
        | some (.origin o) => o
        | _ => .cli)
  | .stopSession => .stopSession ((r.text? .gameletId).getD "")
  | .status => .status
  | .shutdown => .shutdown

/-- Two levels in one: the value after the command counts, then the one before it. -/
def merge (outer inner : Reading) : Reading :=
  ⟨inner.given ++ outer.given, inner.fromEnvironment ++ outer.fromEnvironment⟩

end Reading

/-- The invocation that the words after the program's name make up. -/
def read (env : Host.Environment) (words : List String) : Except UsageError Invocation := do
  let (verb, outer, inner) ← readWords env words
  let all := outer.merge inner
  .ok {
    verbosity := match all.get? .verbose with
      | some (.count n) => n
      | _ => 0
    format := match all.get? .format with
      | some (.format f) => f
      | _ => .json
    socket := all.text? .socket
    command := inner.command verb }

end Streamkeeper.StandIn.CommandLine
