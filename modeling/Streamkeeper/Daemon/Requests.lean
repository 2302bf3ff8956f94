import Streamkeeper.Session.Service
import Streamkeeper.Text.Lines
import Streamkeeper.Wire.Decode

/-!
Answering requests.

The daemon's state is its registry and whether a shutdown was asked for.  A connection is answered
line by line: a blank line gets no answer, a line that is no request gets an error and changes
nothing, and octets that are no text end the connection.
-/

namespace Streamkeeper.Daemon

/-- The state of the daemon between requests. -/
structure State where
  registry : Registry
  shutdownRequested : Bool
deriving Repr, DecidableEq

/-- What the daemon works with: the provisioning tool, the question whether a directory exists, and
the time. -/
structure Surroundings where
  tool : Provisioning.Tool
  isDirectory : String → Bool
  now : UInt64

/-- What a request gives. -/
structure Reply where
  response : Response
  journal : Journal
  state : State

namespace Surroundings

/-- The registry that keeps the books, in these surroundings. -/
def registrar (w : Surroundings) : Registrar Registry SessionHandle :=
  Registry.registrar w.isDirectory w.now

end Surroundings

/-- The response to the result of an operation. -/
def responseOf : Except Error Unit → Response
  | .ok _ => .ok
  | .error e => .error e.code e.message

/-- Answers a request. -/
def handle (w : Surroundings) (request : Request) (s : State) : Reply :=
  let finished (o : Service.Outcome Registry) : Reply :=
    { response := responseOf o.result, journal := o.journal, state := { s with registry := o.state } }
  match request with
  | .status => { response := .status s.registry.status, journal := [], state := s }
  | .shutdown =>
    { response := .ok, journal := Journal.note .info .daemon "shutdown requested"
      state := { s with shutdownRequested := true } }
  | .startSession r => finished (Service.start w.registrar w.tool r s.registry)
  | .stopSession id => finished (Service.stop w.registrar id s.registry)

/-! ### Connections -/

/-- The response to a line that is no request. -/
def malformed (e : Json.ReadError) : Response :=
  .error .invalidArgument s!"malformed request: {e.message}"

/-- Answers a line; a blank line gets no answer. -/
def answerLine (w : Surroundings) (line : List Char) (s : State) :
    Option Response × Journal × State :=
  if line.all Text.isBlank then (none, [], s)
  else
    match Request.read? (String.ofList line) with
    | .ok request =>
      let r := handle w request s
      (some r.response, r.journal, r.state)
    | .error e => (some (malformed e), [], s)

/-- What a connection gives: the answer lines, the journal and the state after it. -/
structure Conversation where
  answers : List String
  journal : Journal
  state : State

/-- Answers lines until one of them is no text; `w n` are the surroundings in which line `n` is
answered. -/
def answerLines (w : Nat → Surroundings) : List Text.Line → State → Conversation
  | [], s => ⟨[], [], s⟩
  | line :: rest, s =>
    match line.text? with
    | .error _ => ⟨[], [], s⟩
    | .ok cs =>
      let (response, journal, s) := answerLine (w 0) cs s
      let c := answerLines (fun n => w (n + 1)) rest s
      ⟨(response.map Response.render).toList ++ c.answers, journal ++ c.journal, c.state⟩

/-- Answers everything that a client sends. -/
def serveConnection (w : Nat → Surroundings) (bytes : Octets) (s : State) : Conversation :=
  answerLines w (Text.lines bytes) s

end Streamkeeper.Daemon
