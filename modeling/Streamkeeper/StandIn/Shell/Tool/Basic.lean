import Streamkeeper.Host.Files
import Streamkeeper.StandIn.Shell.Supply

/-!
Tools: the programs of the host other than the script interpreter.

A tool sees its arguments, the files, the variables and what it can read, and gives its outcome, what it
writes, and the files as it leaves them.
-/

namespace Streamkeeper.StandIn.Shell

open Host (FileSystem IoError OsError)

/-- A call of a tool. -/
structure Invocation where
  name : List Char
  arguments : List (List Char)
  files : FileSystem
  environment : Table String (List Char)
  input : Except OsError Supply
  /-- Is the standard input a file? -/
  seekable : Bool

/-- What a tool calls itself in messages: the name by which it was called. -/
def Invocation.self (i : Invocation) : String := toName i.name

/-- How much a tool reads of its standard input. -/
inductive Appetite where
  | nothing
  | everything
  /-- Until the octets so far are enough. -/
  | upTo (enough : Octets → Bool)

/-- What a tool gives. -/
structure Reply where
  status : Nat
  /-- What is written to which descriptor, in order. -/
  writings : List (Nat × Supply)
  files : FileSystem
  /-- The number of octets that it read and can put back. -/
  unused : Nat
  /-- The time that goes by before it writes, in microseconds. -/
  delay : Nat

namespace Reply

/-- An outcome without output. -/
def outcome (i : Invocation) (status : Nat) : Reply := ⟨status, [], i.files, 0, 0⟩

/-- Success with output. -/
def supply (i : Invocation) (s : Supply) : Reply := ⟨0, [(1, s)], i.files, 0, 0⟩

/-- Success with output. -/
def text (i : Invocation) (cs : List Char) : Reply := supply i (.ofChars cs)

/-- A failure with a message. -/
def failure (i : Invocation) (status : Nat) (message : String) : Reply :=
  ⟨status, [(2, .ofString (message ++ "\n"))], i.files, 0, 0⟩

end Reply

/-- A program of the host. -/
structure Tool where
  appetite : List (List Char) → Appetite
  /-- How every octet of the standard input is changed, if that is all the tool does. -/
  octetwise? : List (List Char) → Option (UInt8 → Option UInt8)
  run : Invocation → Reply

namespace Tool

/-- A tool that reads nothing. -/
def silent (run : Invocation → Reply) : Tool := ⟨fun _ => .nothing, fun _ => none, run⟩

/-- A tool that reads everything. -/
def greedy (run : Invocation → Reply) : Tool := ⟨fun _ => .everything, fun _ => none, run⟩

/-! ### Options -/

/-- What the arguments of a tool ask for. -/
structure Options where
  flags : List (Char × List Char)
  operands : List (List Char)

namespace Options

/-- Is a flag given? -/
def has (o : Options) (c : Char) : Bool :=
  o.flags.any fun f => f.1 == c

/-- The value that was given last for a flag. -/
def value? (o : Options) (c : Char) : Option (List Char) :=
  o.flags.reverse.lookup c

/-- The flag among several that was given last. -/
def last? (o : Options) (cs : List Char) : Option Char :=
  ((o.flags.map (·.1)).filter cs.contains).getLast?

end Options

/-- The options that a tool has: letters without and with a value, and the letters that long names
stand for. -/
structure Grammar where
  plain : String
  valued : String
  long : List (String × Char)

/-- The hint after a wrong call. -/
def hint (tool : String) : String :=
  s!"\nTry '{tool} --help' for more information."

/-- The options in one word of letters. -/
def letters (tool : String) (g : Grammar) : List Char → List (List Char) →
    Except String (List (Char × List Char) × List (List Char))
  | [], args => .ok ([], args)
  | c :: cs, args =>
    if g.plain.toList.contains c then
      (letters tool g cs args).map fun r => ((c, []) :: r.1, r.2)
    else if g.valued.toList.contains c then
      if !cs.isEmpty then .ok ([(c, cs)], args)
      else
        match args with
        | value :: args => .ok ([(c, value)], args)
        | [] => .error (s!"{tool}: option requires an argument -- '{toName [c]}'" ++ hint tool)
    else .error (s!"{tool}: invalid option -- '{toName [c]}'" ++ hint tool)

/-- A long option: its letter, and its value if it has one. -/
def longOption (tool : String) (g : Grammar) (w : List Char) (args : List (List Char)) :
    Except String ((Char × List Char) × List (List Char)) :=
  let name := w.takeWhile (· != '=')
  let value? : Option (List Char) := (w.drop name.length).head?.map fun _ => w.drop (name.length + 1)
  let exact := g.long.find? fun l => l.1.toList == name
  let found := match exact with
    | some l => [l]
    | none => g.long.filter fun l => name.isPrefixOf l.1.toList
  match found with
  | [(_, c)] =>
    if g.valued.toList.contains c then
      match value?, args with
      | some v, _ => .ok ((c, v), args)
      | none, v :: args => .ok ((c, v), args)
      | none, [] =>
        .error (s!"{tool}: option '--{toName name}' requires an argument" ++ hint tool)
    else .ok ((c, []), args)
  | _ => .error (s!"{tool}: unrecognized option '--{toName w}'" ++ hint tool)

/-- Reads the options of a tool, which may stand between its operands. -/
def options (tool : String) (g : Grammar) : (fuel : Nat) → List (List Char) → Except String Options
  | 0, args => .ok ⟨[], args⟩
  | fuel + 1, args => do
    match args with
    | [] => return ⟨[], []⟩
    | ['-', '-'] :: args => return ⟨[], args⟩
    | ('-' :: '-' :: w) :: args =>
      let (flag, args) ← longOption tool g w args
      let o ← options tool g fuel args
      return { o with flags := flag :: o.flags }
    | ('-' :: c :: cs) :: args =>
      let (flags, args) ← letters tool g (c :: cs) args
      let o ← options tool g fuel args
      return { o with flags := flags ++ o.flags }
    | a :: args =>
      let o ← options tool g fuel args
      return { o with operands := a :: o.operands }

/-- A tool with options.  Wrong ones are an outcome of their own. -/
def withOptions (g : Grammar) (status : Nat) (run : Invocation → Options → Reply)
    (i : Invocation) : Reply :=
  match options i.self g (i.arguments.length + 1) i.arguments with
  | .ok o => run i o
  | .error message => .failure i status message

/-! ### Files -/

/-- A text between quotes, as messages show names: single ones if there are none in it. -/
def quoted (cs : List Char) : String :=
  let name := toName cs
  if cs.contains '\'' then "\"" ++ name ++ "\"" else "'" ++ name ++ "'"

/-- Does a script read a word with this character as something else than the word? -/
def needsQuotes (cs : List Char) : Bool :=
  let always := " !\"$&'()*;<=>[\\^|\t\n\x60".toList
  cs.isEmpty || cs.any always.contains || ['#', '~'].contains (cs.headD 'a') ||
    cs == [openBrace] || cs == [closeBrace]

/-- A name as messages show it, between quotes where a script would need them. -/
def named (cs : List Char) : String :=
  if needsQuotes cs then quoted cs else toName cs

/-- The words for a refusal. -/
def reason : IoError → String
  | .os e => e.text
  | e => e.message

/-- Is the operand the standard input? -/
def isInput (name : List Char) : Bool :=
  name == ['-'] || name == "/dev/stdin".toList || name == "/dev/fd/0".toList

/-- What the file that an operand names holds. -/
def contents (i : Invocation) (name : List Char) : Except IoError Supply :=
  if isInput name then
    match i.input with
    | .ok s => .ok s
    | .error e => .error (.os e)
  else
    match i.files.stat (toName name) with
    | .ok .zeros => .ok ⟨[], [0]⟩
    | .ok .full => .ok ⟨[], [0]⟩
    | .ok .directory => .error (.os .isADirectory)
    | .ok (.tool _) => .ok .empty
    | _ => (i.files.read (toName name)).map Supply.ofOctets

/-- How hungry a tool is that reads its standard input when no file is named. -/
def whenNoFiles (operands : List (List Char)) : Appetite :=
  if operands.isEmpty || operands.any isInput then .everything else .nothing

/-- The operands, or the standard input. -/
def orInput (operands : List (List Char)) : List (List Char) :=
  if operands.isEmpty then [['-']] else operands

/-- What operands hold, one after the other: each content, or a message. -/
def gather (i : Invocation) (operands : List (List Char))
    (message : List Char → IoError → String) : List (Except String Supply) :=
  (orInput operands).map fun n =>
    match contents i n with
    | .ok s => .ok s
    | .error e => .error (message n e)

/-- The message of a tool about a file. -/
def plainMessage (i : Invocation) (name : List Char) (e : IoError) : String :=
  s!"{i.self}: {named name}: {reason e}"

/-- The messages among the contents, as writings. -/
def messages (found : List (Except String Supply)) : List (Nat × Supply) :=
  found.filterMap fun
    | .ok _ => none
    | .error m => some (2, Supply.ofString (m ++ "\n"))

/-- The contents behind each other. -/
def joined (found : List (Except String Supply)) : Supply :=
  .join (found.filterMap Except.toOption)

/-- The outcome of reading: failure if something could not be read. -/
def readingStatus (found : List (Except String Supply)) : Nat :=
  if found.all (·.isOk) then 0 else 1

end Tool

end Streamkeeper.StandIn.Shell
