import Streamkeeper.Client.Envelope
import Streamkeeper.Client.Exchange
import Streamkeeper.CommandLine.Command
import Streamkeeper.Daemon.Places
import Streamkeeper.Wire.Literal

/-!
The commands that talk to a running daemon.

Starting and stopping a session print an envelope whether they succeed or not, once the exchange
itself went well.  Asking for the status and for a shutdown succeed also when no daemon runs; they
print an envelope only on success.
-/

namespace Streamkeeper.Client

open CommandLine (Command Invocation)

/-- What a command asks of the daemon, and how its result is reported. -/
inductive Inquiry where
  | start (gameletName directory : String) (origin : Origin)
  | stop (gameletId : String)
  | status
  | shutdown
deriving Repr, DecidableEq

namespace Inquiry

/-- The name of the command in the envelope. -/
def name : Inquiry → String
  | .start _ _ _ => "start-session"
  | .stop _ => "stop-session"
  | .status => "status"
  | .shutdown => "shutdown"

/-- The request that is sent. -/
def request : Inquiry → Request
  | .start gameletName directory origin => .startSession ⟨gameletName, directory, origin⟩
  | .stop gameletId => .stopSession gameletId
  | .status => .status
  | .shutdown => .shutdown

end Inquiry

/-- What a command gives: its result, and what it prints. -/
structure Outcome where
  result : Except CommandError Unit
  printed : String
deriving Repr

/-- The error of a response that does not belong to the request. -/
def unexpected (r : Response) : CommandError :=
  .context s!"unexpected daemon response: {r.literal}"

/-- The result of starting or stopping a session. -/
def sessionResult (endpoint : String) : Option Response → Except CommandError Unit
  | none => .error (.notRunning endpoint)
  | some .ok => .ok ()
  | some (.error code message) => .error (.daemon code message)
  | some r => .error (unexpected r)

/-- The data of asking for the status. -/
def statusData (endpoint : String) : Option Response → Except CommandError StatusData
  | none => .ok (.notRunning endpoint)
  | some (.status s) => .ok (.ofStatus endpoint s)
  | some r => .error (unexpected r)

/-- The data of asking for a shutdown. -/
def shutdownData (endpoint : String) : Option Response → Except CommandError ShutdownData
  | none => .ok ⟨false, endpoint⟩
  | some .ok => .ok ⟨true, endpoint⟩
  | some r => .error (unexpected r)

/-- The envelope of a result. -/
def envelope (command : String) (data : Json) (durationMs : Nat) :
    Except CommandError Unit → Envelope
  | .ok _ => .success command data durationMs
  | .error e => .failure command e durationMs

/-- An outcome that prints an envelope in any case. -/
def reported (command : String) (data : Json) (format : Format) (durationMs : Nat)
    (result : Except CommandError Unit) : Outcome :=
  ⟨result, (envelope command data durationMs result).print format⟩

/-- An outcome that prints an envelope on success only. -/
def reportedSuccess (command : String) (format : Format) (durationMs : Nat)
    (data : Except CommandError Json) : Outcome :=
  match data with
  | .ok data => ⟨.ok (), (Envelope.success command data durationMs).print format⟩
  | .error e => ⟨.error e, ""⟩

/-- Reports the response to an inquiry. -/
def report (i : Inquiry) (endpoint : String) (format : Format) (durationMs : Nat)
    (response : Option Response) : Outcome :=
  match i with
  | .start gameletName directory _ =>
    reported i.name (SessionData.mk gameletName (some directory)).toJson format durationMs
      (sessionResult endpoint response)
  | .stop gameletId =>
    reported i.name (SessionData.mk gameletId none).toJson format durationMs
      (sessionResult endpoint response)
  | .status =>
    reportedSuccess i.name format durationMs ((statusData endpoint response).map (·.toJson))
  | .shutdown =>
    reportedSuccess i.name format durationMs ((shutdownData endpoint response).map (·.toJson))

/-- Carries out an inquiry that meets this at the endpoint. -/
def run (i : Inquiry) (endpoint : String) (format : Format) (durationMs : Nat) (m : Meeting) :
    Outcome :=
  match exchange m with
  | .ok response => report i endpoint format durationMs response
  | .error e => ⟨.error e, ""⟩

/-- The inquiry of a command; a relative directory is taken from the working directory, as the daemon
may have another one.  Running the daemon is no inquiry. -/
def Inquiry.ofCommand? (workingDirectory : String) : Command → Option Inquiry
  | .serve _ => none
  | .startSession gameletName dir origin =>
    some (.start gameletName (Host.Path.absolute workingDirectory dir) origin)
  | .stopSession gameletId => some (.stop gameletId)
  | .status => some .status
  | .shutdown => some .shutdown

/-- The socket of an invocation. -/
def socketOf (env : Host.Environment) (dirs : Host.Directories) (i : Invocation) : String :=
  i.socket.getD (Daemon.defaultSocket env dirs)

end Streamkeeper.Client
