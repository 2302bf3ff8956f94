import Streamkeeper.Error
import Streamkeeper.Json.Reader
import Streamkeeper.Options.Session
import Streamkeeper.Options.Size
import Streamkeeper.Table
import Streamkeeper.Text.Utf8

/-!
The options of the daemon, and loading them from a file.

Options start from defaults, take the values of command line flags, and then those of a file that
holds one JSON object.  Every member of the object is an option of its own: one that can be read sets
the option, one that cannot leaves it alone and is noted with the reason.  A file that is no JSON
object changes nothing.
-/

namespace Streamkeeper

/-- The options in effect, the names read from files so far, and the reasons for those that could
not be read. -/
structure Options where
  sourceDir : String
  instanceIp : String
  instancePort : UInt16
  session : SessionConfig
  logToStdout : Bool
  sdkDir : Option String
  readFlags : List String
  readErrors : Table String String
deriving Repr, DecidableEq

namespace Options

/-- The options without flags and files. -/
def default : Options where
  sourceDir := ""
  instanceIp := ""
  instancePort := 0
  session := .default
  logToStdout := false
  sdkDir := none
  readFlags := []
  readErrors := []

/-- Why the value of an option cannot be read. -/
inductive ValueError where
  | notString (value : Json)
  | notZeroOrOne (value : Number)
  | notBoolean (value : Json)
  | notNatural (value : Json)
  | outOfRange (n : Nat)
  | notSize (value : Json)
  | size (cause : SizeError)
  | unknown
deriving Repr

/-- The sentence that reports a value error. -/
def ValueError.message : ValueError → String
  | .notString v => s!"expected a string, got {v.compact}"
  | .notZeroOrOne n => s!"expected 0 or 1, got {(Json.number n).compact}"
  | .notBoolean v => s!"expected a boolean, got {v.compact}"
  | .notNatural v => s!"expected a non-negative integer, got {v.compact}"
  | .outOfRange n => s!"value {n} is out of range"
  | .notSize v => s!"expected a size such as \"150G\", got {v.compact}"
  | .size cause => cause.message
  | .unknown => "unknown option"

/-! ### Values -/

/-- A string. -/
def readString : Json → Except ValueError String
  | .string s => .ok s
  | v => .error (.notString v)

/-- A truth value, or one of the numbers 0 and 1. -/
def readBool : Json → Except ValueError Bool
  | .bool b => .ok b
  | .number (.int 0) => .ok false
  | .number (.int 1) => .ok true
  | .number n => .error (.notZeroOrOne n)
  | v => .error (.notBoolean v)

/-- A natural number of so many bits. -/
def readNat (bits : Nat) (v : Json) : Except ValueError Nat :=
  match v.asNat? with
  | none => .error (.notNatural v)
  | some n => if n < Nat.pow 2 bits then .ok n else .error (.outOfRange n)

/-- A size: a text with a unit, or a number of octets. -/
def readSize : Json → Except ValueError Nat
  | .string s => (parseSize s).mapError .size
  | .number n => readNat 64 (.number n)
  | v => .error (.notSize v)

/-! ### Options by name -/

/-- The options that a file can set. -/
inductive Key where
  | sourceDir
  | instanceIp
  | instancePort
  | sdkDir
  | logToStdout
  | verbosity
  | debug
  | singlethreaded
  | stats
  | quiet
  | check
  | cacheCapacity
  | cleanupTimeout
  | accessIdleTimeout
  | manifestUpdaterThreads
  | fileChangeWait
deriving Repr, DecidableEq

/-- Every option that a file can set. -/
def Key.all : List Key :=
  [.sourceDir, .instanceIp, .instancePort, .sdkDir, .logToStdout, .verbosity, .debug,
    .singlethreaded, .stats, .quiet, .check, .cacheCapacity, .cleanupTimeout, .accessIdleTimeout,
    .manifestUpdaterThreads, .fileChangeWait]

/-- The name of an option in a file. -/
def Key.name : Key → String
  | .sourceDir => "src_dir"
  | .instanceIp => "instance_ip"
  | .instancePort => "instance_port"
  | .sdkDir => "sdk_dir"
  | .logToStdout => "log_to_stdout"
  | .verbosity => "verbosity"
  | .debug => "debug"
  | .singlethreaded => "singlethreaded"
  | .stats => "stats"
  | .quiet => "quiet"
  | .check => "check"
  | .cacheCapacity => "cache_capacity"
  | .cleanupTimeout => "cleanup_timeout"
  | .accessIdleTimeout => "access_idle_timeout"
  | .manifestUpdaterThreads => "manifest_updater_threads"
  | .fileChangeWait => "file_change_wait_duration_ms"

/-- The option with a name. -/
def Key.ofName? (name : String) : Option Key :=
  Key.all.find? fun k => k.name == name

/-- Changes the session settings. -/
def updateSession (o : Options) (f : SessionConfig → SessionConfig) : Options :=
  { o with session := f o.session }

/-- Sets an option to a value.  An empty SDK directory takes the option away. -/
def set (o : Options) (key : Key) (v : Json) : Except ValueError Options :=
  match key with
  | .sourceDir => (readString v).map fun s => { o with sourceDir := s }
  | .instanceIp => (readString v).map fun s => { o with instanceIp := s }
  | .instancePort => (readNat 16 v).map fun n => { o with instancePort := n.toUInt16 }
  | .sdkDir => (readString v).map fun s => { o with sdkDir := if s = "" then none else some s }
  | .logToStdout => (readBool v).map fun b => { o with logToStdout := b }
  | .verbosity => (readNat 32 v).map fun n => o.updateSession ({ · with verbosity := n })
  | .debug => (readBool v).map fun b => o.updateSession ({ · with debug := b })
  | .singlethreaded => (readBool v).map fun b => o.updateSession ({ · with singlethreaded := b })
  | .stats => (readBool v).map fun b => o.updateSession ({ · with stats := b })
  | .quiet => (readBool v).map fun b => o.updateSession ({ · with quiet := b })
  | .check => (readBool v).map fun b => o.updateSession ({ · with check := b })
  | .cacheCapacity => (readSize v).map fun n => o.updateSession ({ · with cacheCapacity := n })
  | .cleanupTimeout => (readNat 64 v).map fun n => o.updateSession ({ · with cleanupTimeout := n })
  | .accessIdleTimeout =>
    (readNat 64 v).map fun n => o.updateSession ({ · with accessIdleTimeout := n })
  | .manifestUpdaterThreads =>
    (readNat 32 v).map fun n => o.updateSession ({ · with manifestUpdaterThreads := n })
  | .fileChangeWait => (readNat 64 v).map fun n => o.updateSession ({ · with fileChangeWait := n })

/-- Sets the option with a name to a value. -/
def setNamed (o : Options) (name : String) (v : Json) : Except ValueError Options :=
  match Key.ofName? name with
  | some key => o.set key v
  | none => .error .unknown

/-! ### Files -/

/-- Adds a name to sorted names. -/
def insertName (name : String) : List String → List String
  | [] => [name]
  | n :: rest =>
    if name < n then name :: n :: rest
    else if name = n then n :: rest
    else n :: insertName name rest

/-- Notes the reason of a name, in the order of the names. -/
def insertReason (name reason : String) : Table String String → Table String String
  | [] => [(name, reason)]
  | (n, r) :: rest =>
    if name < n then (name, reason) :: (n, r) :: rest
    else if name = n then (name, reason) :: rest
    else (n, r) :: insertReason name reason rest

/-- Takes one member of a file. -/
def applyMember (o : Options) (member : String × Json) : Options :=
  match o.setNamed member.1 member.2 with
  | .ok o => { o with readFlags := insertName member.1 o.readFlags }
  | .error e => { o with readErrors := insertReason member.1 e.message o.readErrors }

/-- Takes the members of a file. -/
def applyMembers (o : Options) (members : List (String × Json)) : Options :=
  members.foldl applyMember o

/-- The text of a file that was read, or why it has none. -/
def fileText (path : String) (content : Except Host.IoError Octets) : Except Error String :=
  match content with
  | .error e =>
    if e.kind = .notFound then .error (.notFound s!"Config file '{path}' not found")
    else .error (.io e)
  | .ok bytes =>
    match Text.Utf8.decode? bytes with
    | .ok cs => .ok (String.ofList cs)
    | .error _ => .error (.io .notText)

/-- The members of the object that a file holds. -/
def fileMembers (path text : String) : Except Error (List (String × Json)) :=
  match Json.read? text with
  | .error e => .error (.invalidArgument s!"Failed to parse config file '{path}': {e.message}")
  | .ok v =>
    match v.canonical with
    | .object members => .ok members
    | _ => .error (.invalidArgument s!"Config file '{path}' must contain a JSON object")

/-- The members that a file gives, from its content as it was read. -/
def members (path : String) (content : Except Host.IoError Octets) :
    Except Error (List (String × Json)) := do
  let text ← fileText path content
  fileMembers path text

/-- Takes the options of the file at `path`, whose content was read as `content`, and says whether
that went well. -/
def load (o : Options) (path : String) (content : Except Host.IoError Octets) :
    Except Error Unit × Options :=
  match members path content with
  | .error e => (.error e, o)
  | .ok ms => (.ok (), o.applyMembers ms)

/-! ### Reports -/

/-- The names read from files. -/
def flagsText (o : Options) : String :=
  String.intercalate ", " o.readFlags

/-- One line for every name that could not be read. -/
def errorsText (o : Options) : String :=
  String.intercalate "\n" (o.readErrors.map fun e => s!"Failed to read '{e.1}': {e.2}")

/-- The options in the order in which they are listed, with their values. -/
def entries (o : Options) : List (String × String) :=
  let s := o.session
  [("src_dir                     ", o.sourceDir),
    ("instance_ip                 ", o.instanceIp),
    ("instance_port               ", Decimal.text o.instancePort.toNat),
    ("sdk_dir                     ", o.sdkDir.getD ""),
    ("log_to_stdout               ", Text.Literal.bool o.logToStdout),
    ("verbosity                   ", Decimal.text s.verbosity),
    ("debug                       ", Text.Literal.bool s.debug),
    ("singlethreaded              ", Text.Literal.bool s.singlethreaded),
    ("stats                       ", Text.Literal.bool s.stats),
    ("quiet                       ", Text.Literal.bool s.quiet),
    ("check                       ", Text.Literal.bool s.check),
    ("cache_capacity              ", Decimal.text s.cacheCapacity),
    ("cleanup_timeout             ", Decimal.text s.cleanupTimeout),
    ("access_idle_timeout         ", Decimal.text s.accessIdleTimeout),
    ("manifest_updater_threads    ", Decimal.text s.manifestUpdaterThreads),
    ("file_change_wait_duration_ms", Decimal.text s.fileChangeWait)]

/-- The options, one on a line. -/
def text (o : Options) : String :=
  String.intercalate "\n" (o.entries.map fun e => e.1 ++ " = " ++ e.2)

end Options

end Streamkeeper
