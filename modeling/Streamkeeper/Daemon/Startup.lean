import Streamkeeper.Client.Error
import Streamkeeper.CommandLine.Command
import Streamkeeper.Daemon.Run
import Streamkeeper.Execution.Lifecycle
import Streamkeeper.Options.Options
import Streamkeeper.Provisioning.Sdk

/-!
Starting the daemon from the command line.

The options are layered: defaults, then flags, then the file of options, which has to be there only if
it was named.  The log goes to a file unless it is wanted on standard output.  With a directory, an
address and a port among the options, a session is started at once, without the provisioning tool.

What the host says and does is a parameter (`Setting`): its variables, the directories that it
knows, and what its programs do.
-/

namespace Streamkeeper.Daemon

open Client (CommandError)
open CommandLine (ServeArgs)
open Host (Directories Environment FileSystem)

/-- The host on which the daemon is started. -/
structure Setting where
  environment : Environment
  directories : Directories
  /-- What a program that is named so does with these arguments, if it can be run. -/
  spawn : FileSystem → String → List String → Except Host.IoError Execution.Child
  now : UInt64

namespace Startup

/-- The options after the flags. -/
def afterFlags (args : ServeArgs) : Options :=
  let o := Options.default
  { o with
    sourceDir := args.srcDir.getD o.sourceDir
    instanceIp := args.instanceIp.getD o.instanceIp
    instancePort := args.instancePort.getD o.instancePort
    sdkDir := args.sdkDir.or o.sdkDir
    logToStdout := o.logToStdout || args.logToStdout }

/-- The file of options that is read, if any. -/
def optionsFile? (dirs : Directories) (fs : FileSystem) (args : ServeArgs) : Option String :=
  args.config.or ((defaultOptions? dirs).filter fs.isThere)

/-- The options in effect. -/
def options (dirs : Directories) (fs : FileSystem) (args : ServeArgs) : Except Error Options :=
  match optionsFile? dirs fs args with
  | some path =>
    let (result, o) := (afterFlags args).load path (fs.read path)
    result.map fun _ => o
  | none => .ok (afterFlags args)

/-- Opens a log file, and makes its directory. -/
def openLog (path : String) (fs : FileSystem) : FileSystem × Except Host.IoError Unit :=
  let (fs, made) := match Host.Path.parent? path with
    | some dir => fs.makeDirectories dir
    | none => (fs, .ok ())
  match made with
  | .error e => (fs, .error e)
  | .ok _ =>
    match fs.openForAppending path with
    | .ok fs => (fs, .ok ())
    | .error e => (fs, .error e)

/-- A record about the configuration. -/
def configRecord (level : Level) (message : String) (fields : List (String × String)) : Entry :=
  .log ⟨level, .config, message, fields⟩

/-- The records about the options in effect and the tool. -/
def report (o : Options) (tool : String) : Journal :=
  (if o.readFlags.isEmpty then []
    else [configRecord .info "read values from config file" [("flags", o.flagsText)]]) ++
  (if o.readErrors.isEmpty then [] else [configRecord .warn o.errorsText []]) ++
  [configRecord .info ("configuration:\n" ++ o.text) [],
    configRecord .info "using provisioning tool" [("ggp", tool)]]

/-- Runs the tool as an external program. -/
def tool (host : Setting) (fs : FileSystem) (o : Options) : Provisioning.Tool :=
  { path := Provisioning.toolPath host.environment o.sdkDir
    run := fun launch => Execution.behaviourOf launch (host.spawn fs launch.program launch.args) }

/-- Is a session wanted from the start? -/
def wantsSession (o : Options) : Bool :=
  o.sourceDir != "" && o.instanceIp != "" && o.instancePort != 0

/-- Starts the session that the options ask for. -/
def startSession (o : Options) (fs : FileSystem) (now : UInt64) (registry : Registry) :
    Registry × Journal :=
  let params : StartParams :=
    ⟨Scope.ofInstance o.instanceIp, ⟨o.instanceIp, o.instancePort⟩, o.sourceDir⟩
  let started := registry.start (fs.isDirectory o.sourceDir) now params
  let record : LogRecord := match started.result with
    | .ok _ =>
      ⟨.info, .daemon, "development session started",
        [("src_dir", o.sourceDir), ("host", o.instanceIp),
          ("port", Decimal.text o.instancePort.toNat)]⟩
    | .error e =>
      ⟨.error, .daemon, "failed to start development session",
        [("error", e.message), ("status", started.status.literal)]⟩
  (started.registry, started.journal ++ [.log record])

end Startup

/-- What a command that runs the daemon gives. -/
structure Outcome where
  result : Except CommandError Unit
  replies : Replies
  journal : Journal
  ending : Journal
  files : FileSystem

/-- A daemon that does not start at all. -/
def Outcome.failed (e : CommandError) (connections : List Octets) (fs : FileSystem) : Outcome :=
  { result := .error e, replies := unanswered connections, journal := [], ending := [], files := fs }

/-- Starts the daemon as the command line asks for and runs it. -/
def serve (host : Setting) (args : ServeArgs) (socket : String) (connections : List Octets)
    (fs : FileSystem) : Outcome :=
  match Startup.options host.directories fs args with
  | .error e => .failed (.core e) connections fs
  | .ok o =>
    let log := defaultLog host.environment host.directories
    let (fs, opened) := if o.logToStdout then (fs, .ok ()) else Startup.openLog log fs
    match opened with
    | .error e => .failed (.io e) connections fs
    | .ok _ =>
      let tool := Startup.tool host fs o
      let empty := Registry.empty o.session
      let (registry, started) :=
        if Startup.wantsSession o then Startup.startSession o fs host.now empty else (empty, [])
      let r := run tool host.now socket connections registry fs
      { result := r.result.mapError .io
        replies := r.replies
        journal := Startup.report o tool.path ++ started ++ r.journal
        ending := r.ending
        files := r.files }

end Streamkeeper.Daemon
