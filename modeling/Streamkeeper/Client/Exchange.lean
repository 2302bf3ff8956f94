import Streamkeeper.Client.Error
import Streamkeeper.Text.Lines
import Streamkeeper.Wire.Decode

/-!
One exchange with the daemon: a request line goes out, a response line comes back.

A socket that is not there, or that nobody listens on, means that no daemon runs; that is no error of
the exchange.  A connection that was made may still break at each of the steps over it.
-/

namespace Streamkeeper.Client

/-- A step over a connection that was made. -/
inductive Step where
  | writing
  | flushing
  | reading
deriving Repr, DecidableEq

/-- What is said of a step that fails. -/
def Step.failure : Step → String
  | .writing => "Failed writing daemon request"
  | .flushing => "Failed flushing daemon request"
  | .reading => "Failed reading daemon response"

/-- What a client meets at the endpoint: the connection is not made, it breaks at a step before the
first line of the reply is there, or these octets come back before it is closed. -/
inductive Meeting where
  | failed (cause : Host.IoError)
  | broken (step : Step)
  | answered (reply : Octets)
deriving Repr, DecidableEq

/-- The line that is sent for a request. -/
def requestLine (r : Request) : String :=
  r.render ++ "\n"

/-- Does a failed connection mean that no daemon runs? -/
def isNotRunning (e : Host.IoError) : Bool :=
  e.kind == .notFound || e.kind == .connectionRefused

/-- The response on the first line of a reply. -/
def firstResponse (reply : Octets) : Except CommandError Response :=
  match Text.lines reply with
  | [] => .error (.context "daemon closed the connection without answering")
  | line :: _ =>
    match Text.Utf8.decode? line.octets with
    | .error _ => .error (.exchange Step.reading.failure)
    | .ok cs =>
      match Response.read? (String.ofList cs) with
      | .ok r => .ok r
      | .error _ => .error (.exchange "Failed parsing daemon response")

/-- The response that comes back, or none if no daemon runs. -/
def exchange : Meeting → Except CommandError (Option Response)
  | .failed cause => if isNotRunning cause then .ok none else .error (.io cause)
  | .broken step => .error (.exchange step.failure)
  | .answered reply => (firstResponse reply).map some

end Streamkeeper.Client
