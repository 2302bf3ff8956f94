import Streamkeeper.Error
import Streamkeeper.Execution.Behaviour
import Streamkeeper.Provisioning.Launch
import Streamkeeper.Scope

/-!
Resolving the address of a gamelet.

The provisioning tool is launched once.  Its address is what its whole output reports, decoded as
one text; how the output was cut into chunks does not matter.  Every failure is final.
-/

namespace Streamkeeper.Provisioning

/-- The tool's name in messages. -/
def toolName : String := "ggp"

/-- The text of an output that came in chunks. -/
def outputText (chunks : List Octets) : String :=
  String.ofList (Text.Utf8.decodeLossy chunks.flatten)

/-- The address that a text reports. -/
def report (output : String) : Except Error Address :=
  match address? output with
  | .ok a => .ok a
  | .error field => .error (.outputParse field output)

/-- The address that a run of the tool reports. -/
def addressOf (run : Execution.Behaviour) : Except Error Address :=
  match run.startFailure with
  | some e => .error (.processStart toolName e)
  | none =>
    match run.runFailure with
    | some e => .error (.processRun toolName e)
    | none =>
      if run.exitCode ≠ 0 then .error (.processExit toolName run.exitCode)
      else report (outputText run.chunks)

/-- The provisioning tool: where it lies, and how a launch of it behaves. -/
structure Tool where
  path : String
  run : Launch → Execution.Behaviour

namespace Tool

/-- The launch that resolves a scope. -/
def launch (t : Tool) (scope : Scope) : Launch :=
  (Launch.sshInit t.path scope.instanceId scope.projectId scope.organizationId).captured

/-- The address of a scope. -/
def resolve (t : Tool) (scope : Scope) : Except Error Address :=
  addressOf (t.run (t.launch scope))

end Tool

end Streamkeeper.Provisioning
