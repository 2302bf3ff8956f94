import Streamkeeper.Error

/-!
Gamelet resource names.

A gamelet is named by ten segments,
`organizations/{org}/projects/{project}/pools/{pool}/gamelets/{a}/{b}/{c}`.  Its instance id is the
tail `{a}/{b}/{c}`.  `parse` reads a name into the scope of a session; the pool has to be there and
is dropped, and a text that is no name is refused with an error that shows it.
-/

namespace Streamkeeper

/-- The organization, project and instance that a session streams to. -/
structure Scope where
  instanceId : String
  projectId : String
  organizationId : String
deriving Repr, DecidableEq, Inhabited

namespace Scope

/-- The scope of an instance that is addressed without a project or an organization. -/
def ofInstance (instanceId : String) : Scope :=
  ⟨instanceId, "", ""⟩

/-- The segments of a name. -/
def segments (name : String) : List String :=
  (name.toList.splitOn '/').map String.ofList

/-- Segments put together to a name. -/
def join (segments : List String) : String :=
  String.intercalate "/" segments

/-- The scope that a full resource name denotes.  Every segment that is not fixed has to be
non-empty. -/
def parse? (name : String) : Option Scope :=
  match segments name with
  | [organizations, org, projects, project, pools, pool, gamelets, a, b, c] =>
    if organizations = "organizations" ∧ projects = "projects" ∧ pools = "pools" ∧
        gamelets = "gamelets" ∧ org ≠ "" ∧ project ≠ "" ∧ pool ≠ "" ∧ a ≠ "" ∧ b ≠ "" ∧ c ≠ "" then
      some { instanceId := join [a, b, c], projectId := project, organizationId := org }
    else none
  | _ => none

/-- The scope that a full resource name denotes, or the error that shows the name. -/
def parse (name : String) : Except Error Scope :=
  match parse? name with
  | some scope => .ok scope
  | none => .error (.badName name)

end Scope

end Streamkeeper
