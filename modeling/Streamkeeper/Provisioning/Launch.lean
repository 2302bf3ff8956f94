import Streamkeeper.Host.Path
import Streamkeeper.Text.Quoted
import Streamkeeper.Text.Literal

/-!
Launching a tool: its program, its arguments, and the line that shows both.
-/

namespace Streamkeeper.Provisioning

/-- What is launched, and what is done with its standard output. -/
structure Launch where
  program : String
  args : List String
  name : String
  hasHandler : Bool
  forwardsOutput : Bool
deriving Repr, DecidableEq

namespace Launch

/-- A launch without arguments, named for the file of its program. -/
def ofProgram (program : String) : Launch :=
  { program := program, args := [], name := (Host.Path.fileName? program).getD ""
    hasHandler := false, forwardsOutput := false }

/-- Adds arguments at the end. -/
def withArgs (l : Launch) (args : List String) : Launch :=
  { l with args := l.args ++ args }

/-- Gives a launch a name. -/
def withName (l : Launch) (name : String) : Launch :=
  { l with name := name }

/-- Hands the output to a handler and to the log. -/
def captured (l : Launch) : Launch :=
  { l with hasHandler := true, forwardsOutput := true }

/-- The launch on one line, with words quoted where they need it. -/
def commandLine (l : Launch) : String :=
  l.program ++ String.ofList (Text.Quoted.words (l.args.map String.toList))

/-- The launch as a value shown to a developer. -/
def literal (l : Launch) : String :=
  Text.Literal.record "ProcessStartInfo"
    [("program", Text.Literal.string l.program),
      ("args", Text.Literal.list (l.args.map Text.Literal.string)),
      ("name", Text.Literal.string l.name), ("stdout_handler", Text.Literal.bool l.hasHandler),
      ("forward_output_to_log", Text.Literal.bool l.forwardsOutput)]

/-- An option of the tool, left out when its value is empty. -/
def optional (flag value : String) : List String :=
  if value = "" then [] else [flag, value]

/-- The arguments that ask the tool for the address of an instance. -/
def sshInitArgs (instanceId projectId organizationId : String) : List String :=
  ["ssh", "init", "--instance", instanceId] ++ optional "--project" projectId ++
    optional "--organization" organizationId

/-- Asks the tool for the address of an instance. -/
def sshInit (tool instanceId projectId organizationId : String) : Launch :=
  ((ofProgram tool).withName "ggp ssh init").withArgs
    (sshInitArgs instanceId projectId organizationId)

end Launch

end Streamkeeper.Provisioning
