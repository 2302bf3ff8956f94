/-!
Status codes: the closed list of outcomes that answers carry.
-/

namespace Streamkeeper

/-- The outcome of a request. -/
inductive StatusCode where
  | ok
  | cancelled
  | unknown
  | invalidArgument
  | deadlineExceeded
  | notFound
  | alreadyExists
  | resourceExhausted
  | failedPrecondition
  | aborted
  | unimplemented
  | internal
  | unavailable
deriving Repr, DecidableEq, Inhabited

namespace StatusCode

/-- Every code, in the order in which they are listed. -/
def all : List StatusCode :=
  [.ok, .cancelled, .unknown, .invalidArgument, .deadlineExceeded, .notFound, .alreadyExists,
    .resourceExhausted, .failedPrecondition, .aborted, .unimplemented, .internal, .unavailable]

theorem mem_all (c : StatusCode) : c ∈ all := by
  cases c <;> decide

/-- The name of a code in messages and on the wire. -/
def name : StatusCode → String
  | .ok => "OK"
  | .cancelled => "CANCELLED"
  | .unknown => "UNKNOWN"
  | .invalidArgument => "INVALID_ARGUMENT"
  | .deadlineExceeded => "DEADLINE_EXCEEDED"
  | .notFound => "NOT_FOUND"
  | .alreadyExists => "ALREADY_EXISTS"
  | .resourceExhausted => "RESOURCE_EXHAUSTED"
  | .failedPrecondition => "FAILED_PRECONDITION"
  | .aborted => "ABORTED"
  | .unimplemented => "UNIMPLEMENTED"
  | .internal => "INTERNAL"
  | .unavailable => "UNAVAILABLE"

/-- The code with a name. -/
def ofName? (s : String) : Option StatusCode :=
  all.find? fun c => c.name == s

@[simp] theorem ofName?_name (c : StatusCode) : ofName? c.name = some c := by
  cases c <;> decide

/-- The name of a code in values shown to a developer. -/
def literal : StatusCode → String
  | .ok => "Ok"
  | .cancelled => "Cancelled"
  | .unknown => "Unknown"
  | .invalidArgument => "InvalidArgument"
  | .deadlineExceeded => "DeadlineExceeded"
  | .notFound => "NotFound"
  | .alreadyExists => "AlreadyExists"
  | .resourceExhausted => "ResourceExhausted"
  | .failedPrecondition => "FailedPrecondition"
  | .aborted => "Aborted"
  | .unimplemented => "Unimplemented"
  | .internal => "Internal"
  | .unavailable => "Unavailable"

/-- Does the code report success? -/
def isOk (c : StatusCode) : Bool :=
  c == .ok

end StatusCode

end Streamkeeper
