import Streamkeeper.StandIn.Shell.Formatting
import Streamkeeper.StandIn.Shell.Pattern
import Streamkeeper.StandIn.Shell.Tool.Basic

/-!
Exchanging, deleting and squeezing characters.
-/

namespace Streamkeeper.StandIn.Shell.Tool

/-- A character of a set, which a backslash may denote. -/
def setChar : List Char → Char × List Char
  | '\\' :: rest => if rest.isEmpty then ('\\', []) else
    match escapeAfter false rest with
    | ('\\', c :: more) => if rest.head? = some '\\' then ('\\', c :: more) else (c, more)
    | r => r
  | c :: rest => (c, rest)
  | [] => (' ', [])

/-- The characters from one to another. -/
def between (a b : Char) : List Char :=
  (List.range (b.toNat + 1 - a.toNat)).map fun k => Char.ofNat (a.toNat + k)

/-- A set between brackets: all characters of a class, or one that stands several times. -/
def bracketSet? (size : Nat) (cs : List Char) : Option (List Char × List Char) :=
  match cs with
  | '[' :: ':' :: rest =>
    let name := rest.takeWhile Char.isAlpha
    match rest.drop name.length, Pattern.classes.lookup (String.ofList name) with
    | ':' :: ']' :: after, some p => some ((between '\x00' '\x7f').filter p, after)
    | _, _ => none
  | '[' :: c :: '*' :: rest =>
    let digits := rest.takeWhile Char.isDigit
    match rest.drop digits.length with
    | ']' :: after =>
      let n := Nat.ofDigitChars 10 digits 0
      some (List.replicate (if n = 0 then size else n) c, after)
    | _ => none
  | '[' :: '=' :: c :: '=' :: ']' :: after => some ([c], after)
  | _ => none

/-- The name of a class between brackets that there is not. -/
def unknownClass? (cs : List Char) : Option (List Char) :=
  match cs with
  | '[' :: ':' :: rest =>
    let name := rest.takeWhile Char.isAlpha
    if (":]".toList).isPrefixOf (rest.drop name.length) &&
        (Pattern.classes.lookup (String.ofList name)).isNone then some name
    else none
  | _ => none

/-- The characters that a set names; `size` is the number of those that they stand for.  The error is
a message. -/
def setChars (size : Nat) : (fuel : Nat) → List Char → Except String (List Char)
  | 0, _ => .ok []
  | _, [] => .ok []
  | fuel + 1, cs =>
    match unknownClass? cs, bracketSet? size cs with
    | some name, _ => .error s!"invalid character class '{toName name}'"
    | none, some (members, rest) => (setChars size fuel rest).map (members ++ ·)
    | none, none =>
      let (a, rest) := setChar cs
      match rest with
      | '-' :: b :: more =>
        let (b, rest) := setChar (b :: more)
        if b < a then
          .error s!"range-endpoints of '{toName [a]}-{toName [b]}' are in reverse collating sequence order"
        else (setChars size fuel rest).map (between a b ++ ·)
      | _ => (setChars size fuel rest).map (a :: ·)

/-- What `tr` is asked for. -/
structure Exchange where
  delete : Bool
  squeeze : Bool
  fromSet : List Char
  toSet : List Char

/-- The exchange of two sets. -/
def exchangeOf (o : Options) (w v : List Char) : Except String Exchange := do
  let named ← setChars 0 (w.length + 1) w
  let all := (List.range 256).map Char.ofNat
  let first := if o.has 'c' || o.has 'C' then all.filter fun c => !named.contains c else named
  let fixed ← setChars 0 (v.length + 1) v
  let second ← setChars (first.length - fixed.length) (v.length + 1) v
  if o.has 'd' then return ⟨true, o.has 's', first, second⟩
  else if second.isEmpty && !first.isEmpty && !(o.has 's' && v.isEmpty) && !o.has 't' then
    throw "when not truncating set1, string2 must be non-empty"
  else return ⟨false, o.has 's', if o.has 't' then first.take second.length else first, second⟩

/-- The options of `tr`. -/
def trGrammar : Grammar :=
  ⟨"cCdst", "", [("complement", 'c'), ("delete", 'd'), ("squeeze-repeats", 's'), ("truncate-set1", 't')]⟩

/-- What the arguments ask for. -/
def exchange? (tool : String) (args : List (List Char)) : Except String Exchange := do
  let o ← options tool trGrammar (args.length + 1) args
  let fail (m : String) : Except String Exchange := throw (s!"{tool}: {m}" ++ hint tool)
  let sets (w v : List Char) : Except String Exchange :=
    (exchangeOf o w v).mapError fun m => s!"{tool}: {m}"
  let deletes : Bool := o.has 'd' && !o.has 's'
  match o.operands with
  | [] => fail "missing operand"
  | [w] =>
    if deletes || (o.has 's' && !o.has 'd') then sets w []
    else
      let why := if o.has 'd' then "Two strings must be given when both deleting and squeezing repeats."
        else "Two strings must be given when translating."
      fail s!"missing operand after {quoted w}\n{why}"
  | [w, v] =>
    if deletes then
      fail s!"extra operand {quoted v}\nOnly one string may be given when deleting without squeezing repeats."
    else sets w v
  | _ :: _ :: v :: _ => fail s!"extra operand {quoted v}"

/-- The index of an element. -/
def indexOf? (c : Char) (cs : List Char) : Option Nat :=
  let n := (cs.takeWhile (· != c)).length
  if n < cs.length then some n else none

/-- What becomes of an octet. -/
def Exchange.octet (e : Exchange) (b : UInt8) : Option UInt8 :=
  let c := Char.ofNat b.toNat
  if e.delete then if e.fromSet.contains c then none else some b
  else
    match e.toSet.getLast?, indexOf? c e.fromSet with
    | some last, some k => some ((e.toSet[k]?.getD last).toNat.toUInt8)
    | _, _ => some b

/-- Drops all but the first of the same octets that follow each other, of those that `p` names. -/
def squeeze (p : UInt8 → Bool) : Octets → Octets
  | a :: rest =>
    match squeeze p rest with
    | b :: more => if a = b && p a then a :: more else a :: b :: more
    | [] => [a]
  | [] => []

/-- Exchanges the characters of the input. -/
def tr (i : Invocation) : Reply :=
  match exchange? i.self i.arguments, i.input with
  | .error m, _ => .failure i 1 m
  | _, .error e => .failure i 1 s!"{i.self}: read error: {e.text}"
  | .ok e, .ok s =>
    let changed := s.filterMap e.octet
    if e.squeeze then
      let last := if e.toSet.isEmpty then e.fromSet else e.toSet
      let p (b : UInt8) : Bool := last.contains (Char.ofNat b.toNat)
      .supply i ⟨squeeze p changed.octets, changed.endless⟩
    else .supply i changed

/-- How octets are exchanged, if that is all. -/
def trOctetwise (args : List (List Char)) : Option (UInt8 → Option UInt8) :=
  match exchange? "tr" args with
  | .ok e => if e.squeeze then none else some e.octet
  | .error _ => none

/-! ### Copying -/

/-- The value of an operand that is given as `name=value`. -/
def operand? (name : String) (args : List (List Char)) : Option (List Char) :=
  args.findSome? fun a => (name.toList ++ ['=']).isPrefixOf? a

/-- A number of octets in words. -/
def sizeText (n : Nat) : String :=
  let scaled (base : Nat) (units : List String) : String :=
    let rec go (unit : Nat) : List String → String
      | [] => ""
      | [u] => value unit u
      | u :: us => if n < unit * base then value unit u else go (unit * base) us
    go base units
  let byBytes := if n = 1 then "1 byte" else s!"{Nat.repr n} bytes"
  let decimal := scaled 1000 ["kB", "MB", "GB", "TB"]
  let binary := scaled 1024 ["KiB", "MiB", "GiB", "TiB"]
  if n < 1000 then byBytes
  else if n < 1024 then s!"{byBytes} ({decimal})"
  else s!"{byBytes} ({decimal}, {binary})"
where
  /-- The size in a unit, with a place after the point if it is small. -/
  value (unit : Nat) (name : String) : String :=
    let tenths := (n * 10 + unit - 1) / unit
    if tenths < 100 then s!"{Nat.repr (tenths / 10)}.{Nat.repr (tenths % 10)} {name}"
    else s!"{Nat.repr ((n + unit - 1) / unit)} {name}"

/-- How much `dd` is to read: the size of a block, and how many. -/
def blocks (args : List (List Char)) (size : List Char → Option Nat) : Nat × Option Nat :=
  (((operand? "ibs" args).or (operand? "bs" args)).bind size |>.getD 512,
    (operand? "count" args).bind size)

/-- The names of the operands of `dd`. -/
def operandNames : List String :=
  ["bs", "cbs", "conv", "count", "ibs", "if", "iflag", "obs", "of", "oflag", "seek", "skip", "status"]

/-- Is the word an operand of `dd`? -/
def isOperand (w : List Char) : Bool :=
  w.contains '=' && operandNames.contains (toName (w.takeWhile (· != '=')))

/-- Copies blocks as the operands say. -/
def copyBlocks (size : List Char → Option Nat) (i : Invocation) : Reply :=
  let args := i.arguments
  let (block, count) := blocks args size
  let source : Except String Supply := match operand? "if" args with
    | some path => (contents i path).mapError fun e => s!"{i.self}: failed to open {quoted path}: {reason e}"
    | none => i.input.mapError fun e => s!"{i.self}: error reading 'standard input': {e.text}"
  match source with
  | .error m => .failure i 1 m
  | .ok s =>
    let s := match (operand? "skip" args).bind size with
      | some n => s.drop (n * block)
      | none => s
    let copied : Supply := match count with
      | some n => .ofOctets (s.take (n * block))
      | none => s
    let n := copied.octets.length
    let broken := if n % block = 0 then "0" else "1"
    let records := s!"{Nat.repr (n / block)}+{broken} records"
    let report := s!"{records} in\n{records} out\n"
    let status := (operand? "status" args).map String.ofList
    let lines := if status = some "none" then ""
      else if status = some "noxfer" then report
      else report ++ s!"{sizeText n} copied, 0.0001 s, 1.0 MB/s\n"
    let errors : List (Nat × Supply) := [(2, .ofString lines)]
    match operand? "of" args with
    | none => { Reply.outcome i 0 with writings := (1, copied) :: errors }
    | some path =>
      match i.files.locate true (toName path) with
      | .error e => .failure i 1 s!"{i.self}: failed to open {quoted path}: {reason e}"
      | .ok (.taken _ .directory) => .failure i 1 s!"{i.self}: failed to open {quoted path}: Is a directory"
      | .ok (.taken place (.file old executable)) =>
        let keeps : Bool := (operand? "conv" args).any fun w => (w.splitOn ',').contains "notrunc".toList
        let content := copied.octets ++ (if keeps then old.drop n else [])
        { Reply.outcome i 0 with
          files := i.files.put place (.file content executable), writings := errors }
      | .ok (.free place) =>
        { Reply.outcome i 0 with
          files := i.files.put place (.file copied.octets false), writings := errors }
      | .ok _ => { Reply.outcome i 0 with writings := errors }

/-- Copies blocks. -/
def dd (size : List Char → Option Nat) (i : Invocation) : Reply :=
  match i.arguments.find? fun a => !isOperand a with
  | some w => .failure i 1 (s!"{i.self}: unrecognized operand {quoted w}" ++ hint i.self)
  | none => copyBlocks size i

/-- How much `dd` reads. -/
def ddAppetite (size : List Char → Option Nat) (args : List (List Char)) : Appetite :=
  if (operand? "if" args).isSome then .nothing
  else
    match blocks args size with
    | (block, some n) => .upTo fun bs => n * block ≤ bs.length
    | (_, none) => .everything

end Streamkeeper.StandIn.Shell.Tool
