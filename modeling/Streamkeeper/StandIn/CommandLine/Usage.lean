import Streamkeeper.Client.Envelope
import Streamkeeper.Decimal.Digits

/-!
The commands, their options, and what is wrong with a command line.

Options stand before or after the command; those that only the front may hold, and those of each
command, are listed by `Level.options`.  A value is checked as soon as it is taken.
-/

namespace Streamkeeper.StandIn.CommandLine

/-- Why a command line is not carried out. -/
inductive UsageError where
  /-- There is no such option, or nothing takes the word. -/
  | unknownArgument
  /-- There is no such command. -/
  | unknownCommand
  /-- A required option is missing. -/
  | missingOption
  /-- An option is given twice. -/
  | repeatedOption
  /-- A value is missing, or is not one of those that are possible. -/
  | badValue
  /-- A value is no number in range. -/
  | badNumber
  /-- A switch is given a value. -/
  | surplusValue
  | helpWanted
  | versionWanted
  /-- Nothing is given at all. -/
  | nothingGiven
  /-- Options are given, but no command. -/
  | missingCommand
deriving Repr, DecidableEq

/-- The exit code of the program after a usage error: asking for help or the version is none. -/
def UsageError.exitCode : UsageError → Nat
  | .helpWanted => 0
  | .versionWanted => 0
  | _ => 2

/-- The sentence that reports a usage error. -/
def UsageError.message : UsageError → String
  | .unknownArgument => "unexpected argument"
  | .unknownCommand => "unrecognized subcommand"
  | .missingOption => "a required option was not given"
  | .repeatedOption => "an option cannot be used multiple times"
  | .badValue => "a value is missing or not possible"
  | .badNumber => "a value is no number in range"
  | .surplusValue => "a switch takes no value"
  | .helpWanted => "commands are serve, start-session, stop-session, status and shutdown"
  | .versionWanted => "asset_stream_manager"
  | .nothingGiven => "a command is required"
  | .missingCommand => "a command is required"

/-- The commands by name. -/
inductive Verb where
  | serve
  | startSession
  | stopSession
  | status
  | shutdown
deriving Repr, DecidableEq

namespace Verb

/-- Every command. -/
def all : List Verb :=
  [.serve, .startSession, .stopSession, .status, .shutdown]

/-- The name of a command. -/
def name : Verb → String
  | .serve => "serve"
  | .startSession => "start-session"
  | .stopSession => "stop-session"
  | .status => "status"
  | .shutdown => "shutdown"

/-- The command with a name. -/
def ofName? (s : String) : Option Verb :=
  all.find? fun v => v.name == s

end Verb

/-- The options. -/
inductive Flag where
  | verbose
  | format
  | socket
  | help
  | version
  | config
  | srcDir
  | instanceIp
  | instancePort
  | sdkDir
  | logToStdout
  | gameletName
  | dir
  | origin
  | gameletId
deriving Repr, DecidableEq

namespace Flag

/-- The name of an option after two hyphens. -/
def long : Flag → String
  | .verbose => "verbose"
  | .format => "format"
  | .socket => "socket"
  | .help => "help"
  | .version => "version"
  | .config => "config"
  | .srcDir => "src-dir"
  | .instanceIp => "instance-ip"
  | .instancePort => "instance-port"
  | .sdkDir => "sdk-dir"
  | .logToStdout => "log-to-stdout"
  | .gameletName => "gamelet-name"
  | .dir => "dir"
  | .origin => "origin"
  | .gameletId => "gamelet-id"

/-- The letter of an option after one hyphen. -/
def short? : Flag → Option Char
  | .verbose => some 'v'
  | .format => some 'f'
  | .help => some 'h'
  | .version => some 'V'
  | _ => none

/-- The environment variable that stands in for an option which is not given. -/
def environmentName? : Flag → Option String
  | .socket => some "ASSET_STREAM_MANAGER_SOCKET"
  | .sdkDir => some "GGP_SDK_PATH"
  | _ => none

/-- Is the option a switch, which takes no value? -/
def isSwitch : Flag → Bool
  | .verbose => true
  | .help => true
  | .version => true
  | .logToStdout => true
  | _ => false

end Flag

/-- The two levels of a command line: the front, and what follows the command. -/
inductive Level where
  | front
  | command (verb : Verb)
deriving Repr, DecidableEq

namespace Level

/-- The options that belong to both levels. -/
def common : List Flag :=
  [.verbose, .format, .socket, .help]

/-- The options that a command needs. -/
def required : Level → List Flag
  | .command .startSession => [.gameletName, .dir]
  | .command .stopSession => [.gameletId]
  | _ => []

/-- The options of a level. -/
def options : Level → List Flag
  | .front => .version :: common
  | .command .serve =>
    [.config, .srcDir, .instanceIp, .instancePort, .sdkDir, .logToStdout] ++ common
  | .command .startSession => [.gameletName, .dir, .origin] ++ common
  | .command .stopSession => .gameletId :: common
  | .command .status => common
  | .command .shutdown => common

/-- The option of a level with a long name. -/
def long? (l : Level) (name : String) : Option Flag :=
  l.options.find? fun f => f.long == name

/-- The option of a level with a letter. -/
def short? (l : Level) (letter : Char) : Option Flag :=
  l.options.find? fun f => f.short? == some letter

end Level

/-! ### Values -/

/-- The value of an option. -/
inductive Value where
  | on
  | count (n : Nat)
  | text (s : String)
  | port (n : UInt16)
  | format (f : Client.Format)
  | origin (o : Origin)
deriving Repr, DecidableEq

/-- The origins that a command line can name. -/
def originNames : List (String × Origin) :=
  [("unknown", .unknown), ("cli", .cli), ("partner-portal", .partnerPortal)]

/-- A port number: digits after at most one sign, below 2^16. -/
def port? (s : String) : Option UInt16 :=
  let n? := match s.toList with
    | '-' :: cs => if cs.head? = some '+' then none else Decimal.read? 1 (String.ofList cs)
    | _ => Decimal.read? (Nat.pow 2 16) s
  n?.map Nat.toUInt16

/-- Reads the value of an option.  Paths must not be empty; other texts may be. -/
def Value.read (f : Flag) (s : String) : Except UsageError Value :=
  let chosen {α : Type} (make : α → Value) (names : List (String × α)) : Except UsageError Value :=
    match names.lookup s with
    | some a => .ok (make a)
    | none => .error .badValue
  let path : Except UsageError Value := if s = "" then .error .badValue else .ok (.text s)
  match f with
  | .format => chosen .format Client.Format.names
  | .origin => chosen .origin originNames
  | .instancePort =>
    match port? s with
    | some n => .ok (.port n)
    | none => .error .badNumber
  | .socket => path
  | .config => path
  | .sdkDir => path
  | .dir => path
  | _ => .ok (.text s)

end Streamkeeper.StandIn.CommandLine
