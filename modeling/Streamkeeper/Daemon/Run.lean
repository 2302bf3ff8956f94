import Streamkeeper.Daemon.Places
import Streamkeeper.Daemon.Requests
import Streamkeeper.Host.Socket

/-!
The daemon from its start to its end.

The daemon listens on its socket, in place of whatever lies there, and answers one connection after
the other.  It ends after the connection that asks for a shutdown, or when it is interrupted.  At the
end, also after a failed start, every session is stopped and the socket is removed.
-/

namespace Streamkeeper.Daemon

open Host (FileSystem IoError)

/-- Makes the directory of the socket, frees its name and binds it. -/
def listen (fs : FileSystem) (socket : String) : FileSystem × Except IoError Unit :=
  let (fs, made) := match Host.Path.parent? socket with
    | some parent => fs.makeDirectories parent
    | none => (fs, .ok ())
  match made with
  | .error e => (fs, .error e)
  | .ok _ =>
    let fs := if fs.isThere socket then fs.unlinkAnyway socket else fs
    match fs.bind socket with
    | .ok (fs, _) => (fs, .ok ())
    | .error e => (fs, .error e)

/-- What the connections get: their answers, or nothing if nobody listens any more. -/
abbrev Replies := List (Option (List String))

/-- The replies to connections when nobody listens. -/
def unanswered (connections : List Octets) : Replies :=
  connections.map fun _ => none

/-- What serving connections gives. -/
structure Served where
  replies : Replies
  journal : Journal
  state : State

/-- Serves connections until a shutdown is asked for. -/
def serveAll (w : Surroundings) : List Octets → State → Served
  | [], s => ⟨[], [], s⟩
  | bytes :: rest, s =>
    if s.shutdownRequested then ⟨unanswered (bytes :: rest), [], s⟩
    else
      let c := serveConnection (fun _ => w) bytes s
      let more := serveAll w rest c.state
      ⟨some c.answers :: more.replies, c.journal ++ more.journal, more.state⟩

/-- What a run of the daemon gives; `ending` is the part of the journal after the last connection,
and `registry` and `files` are what is left. -/
structure Run where
  result : Except IoError Unit
  replies : Replies
  journal : Journal
  ending : Journal
  registry : Registry
  files : FileSystem

/-- Stops every session and removes the socket. -/
def finish (registry : Registry) (socket : String) (fs : FileSystem) :
    Registry × Journal × FileSystem :=
  let (registry, stopped) := registry.shutdown
  (registry, stopped ++ Journal.note .info .daemon "daemon stopped", fs.unlinkAnyway socket)

/-- The record of an interruption, unless a shutdown was asked for. -/
def interruption (s : State) : Journal :=
  if s.shutdownRequested then [] else Journal.note .info .daemon "interrupted"

/-- Runs the daemon on a socket for the connections that clients make, with a registry that may hold
sessions already. -/
def run (tool : Provisioning.Tool) (now : UInt64) (socket : String) (connections : List Octets)
    (registry : Registry) (fs : FileSystem) : Run :=
  match listen fs socket with
  | (fs, .error e) =>
    let (registry, ending, fs) := finish registry socket fs
    { result := .error e, replies := unanswered connections, journal := [], ending := ending
      registry := registry, files := fs }
  | (fs, .ok _) =>
    let w : Surroundings := { tool := tool, isDirectory := fs.isDirectory, now := now }
    let served := serveAll w connections ⟨registry, false⟩
    let (registry, ending, fs) := finish served.state.registry socket fs
    { result := .ok ()
      replies := served.replies
      journal :=
        .log ⟨.info, .daemon, "daemon listening", [("socket", socket)]⟩ :: served.journal ++
          interruption served.state
      ending := ending
      registry := registry
      files := fs }

end Streamkeeper.Daemon
