import Streamkeeper.Client.Command
import Streamkeeper.Daemon.Startup
import Streamkeeper.StandIn

/-!
The command line program.

The program carries out one command on a host that is kept in memory.  Standard input is what the
other side of the socket sends: the requests of one connection for the daemon, and the daemon's reply
for every other command.
-/

namespace Streamkeeper.Main

/-- The environment variables that matter. -/
def variableNames : List String :=
  ["HOME", "XDG_CONFIG_HOME", "XDG_DATA_HOME", "XDG_RUNTIME_DIR", "TMPDIR",
    "ASSET_STREAM_MANAGER_SOCKET", "GGP_SDK_PATH"]

/-- The host on which commands run. -/
def host : Host.FileSystem :=
  StandIn.standardFiles "work"

/-- The environment of the program. -/
def environment : IO Host.Environment := do
  let values ← variableNames.mapM fun name => do
    return (← IO.getEnv name).map fun value => (name, value)
  return values.filterMap id

/-- Everything that can be read. -/
def readAll : IO Octets := do
  return (octets (← (← IO.getStdin).readToEnd))

/-- Reports a failure. -/
def report (message : String) : IO Unit := do
  (← IO.getStderr).putStr ("Error: " ++ message ++ "\n")

/-- The exit code of a result, which is reported if it is a failure. -/
def finish (result : Except Client.CommandError Unit) : IO UInt32 := do
  if let .error e := result then report e.message
  return Client.exitCode result

/-- Runs the daemon for one connection. -/
def serve (env : Host.Environment) (args : CommandLine.ServeArgs) (socket : String) :
    IO UInt32 := do
  let session := Daemon.serve (StandIn.setting env 0) args socket [← readAll] host
  for record in session.journal.logs ++ session.ending.logs do
    (← IO.getStderr).putStr (record.level.name ++ " " ++ record.message ++ "\n")
  for answers in session.replies do
    for line in answers.getD [] do
      (← IO.getStdout).putStr (line ++ "\n")
  finish session.result

/-- Carries out a command that asks a daemon. -/
def ask (inquiry : Client.Inquiry) (socket : String) (format : Client.Format) : IO UInt32 := do
  let outcome := Client.run inquiry (Daemon.endpoint socket) format 0 (.answered (← readAll))
  (← IO.getStdout).putStr outcome.printed
  finish outcome.result

end Streamkeeper.Main

open Streamkeeper in
/-- Reads the command line and carries out the command. -/
def main (words : List String) : IO UInt32 := do
  let env ← Main.environment
  match StandIn.CommandLine.read env words with
  | .error e =>
    Main.report e.message
    return e.exitCode.toUInt32
  | .ok invocation =>
    let socket := Client.socketOf env (StandIn.directories env) invocation
    let directory := StandIn.workingPath Main.host
    match invocation.command, Client.Inquiry.ofCommand? directory invocation.command with
    | .serve args, _ => Main.serve env args socket
    | _, some inquiry => Main.ask inquiry socket invocation.format
    | _, none => return 0
