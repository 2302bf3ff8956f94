import Streamkeeper.Text.Literal
import Streamkeeper.Wire.Message

/-!
Values and responses as literals, for messages that show an unexpected response to a developer.
-/

namespace Streamkeeper

namespace Json

mutual

/-- The literal of a value. -/
def literal : Json → String
  | .null => "Null"
  | .bool b => "Bool(" ++ Text.Literal.bool b ++ ")"
  | .number n => "Number(" ++ String.ofList (numberText n) ++ ")"
  | .string s => "String(" ++ Text.Literal.string s ++ ")"
  | .array items => "Array " ++ Text.Literal.list (literalItems items)
  | .object members => "Object " ++ Text.Literal.map (literalMembers members)

/-- The literals of the elements of an array. -/
def literalItems : List Json → List String
  | [] => []
  | v :: rest => literal v :: literalItems rest

/-- The literals of the members of an object. -/
def literalMembers : List (String × Json) → List (String × String)
  | [] => []
  | (k, v) :: rest => (Text.Literal.string k, literal v) :: literalMembers rest

end

end Json

/-- The literal of a session. -/
def SessionSummary.literal (s : SessionSummary) : String :=
  Text.Literal.record "SessionSummary"
    [("instance_id", Text.Literal.string s.instanceId),
      ("workstation_directory", Text.Literal.string s.workstationDirectory),
      ("host", Text.Literal.string s.host), ("port", Decimal.text s.port.toNat),
      ("started_at_unix_secs", Decimal.text s.startedAt.toNat)]

/-- The literal of a status. -/
def ManagerStatus.literal (s : ManagerStatus) : String :=
  Text.Literal.record "ManagerStatus"
    [("session_count", Decimal.text s.sessionCount),
      ("sessions", Text.Literal.list (s.sessions.map (·.literal))), ("config", s.config.literal)]

/-- The literal of a response. -/
def Response.literal : Response → String
  | .status s => "Status(" ++ s.literal ++ ")"
  | .ok => "Ok"
  | .error code message =>
    Text.Literal.record "Error"
      [("code", code.literal), ("message", Text.Literal.string message)]

end Streamkeeper
