import Streamkeeper.Json.Basic
import Streamkeeper.Text.Blank

/-!
Origins: who asked for a session.

Clients name their origin by a tag or by a number.  Tags are read without regard to case, blanks at
the ends, or the choice between hyphens and underscores, and anything that names no origin is the
unknown one, so an origin never makes a request fail.
-/

namespace Streamkeeper

/-- Who asked for a streaming session. -/
inductive Origin where
  | unknown
  | cli
  | partnerPortal
deriving Repr, DecidableEq, Inhabited

namespace Origin

/-- The tag of an origin in answers and events. -/
def tag : Origin → String
  | .unknown => "unknown"
  | .cli => "cli"
  | .partnerPortal => "partner_portal"

/-- The form in which tags are compared: trimmed, lower case, with underscores. -/
def normalTag (s : String) : String :=
  let cs := (Text.trim Text.isBlank s.toList).map Char.toLower
  String.ofList (cs.map fun c => if c = '-' then '_' else c)

/-- The origin that a tag names. -/
def ofTag (s : String) : Origin :=
  let t := normalTag s
  if t = "cli" ∨ t = "origin_cli" then .cli
  else if t = "partner_portal" ∨ t = "origin_partner_portal" then .partnerPortal
  else .unknown

/-- The origin with a number. -/
def ofNumber (n : Nat) : Origin :=
  if n = 1 then .cli else if n = 2 then .partnerPortal else .unknown

/-- The origin that a JSON value names. -/
def ofJson : Json → Origin
  | .string s => ofTag s
  | .number n => match (Json.number n).asNat? with
    | some n => ofNumber n
    | none => .unknown
  | _ => .unknown

/-- An origin as a JSON value. -/
def toJson (o : Origin) : Json :=
  .string o.tag

end Origin

end Streamkeeper
