/-!
What the operating system refuses, and how that is reported.
-/

namespace Streamkeeper.Host

/-- The refusals of the operating system. -/
inductive OsError where
  | noEntry
  | execFormat
  | badDescriptor
  | permissionDenied
  | fileExists
  | notADirectory
  | isADirectory
  | invalidArgument
  | noSpace
  | brokenPipe
  | nameTooLong
  | notEmpty
  | tooManyLinks
  | noDevice
  | addressInUse
  | connectionRefused
deriving Repr, DecidableEq

namespace OsError

/-- The number of a refusal. -/
def number : OsError → Nat
  | .noEntry => 2
  | .noDevice => 6
  | .execFormat => 8
  | .badDescriptor => 9
  | .permissionDenied => 13
  | .fileExists => 17
  | .notADirectory => 20
  | .isADirectory => 21
  | .invalidArgument => 22
  | .noSpace => 28
  | .brokenPipe => 32
  | .nameTooLong => 36
  | .notEmpty => 39
  | .tooManyLinks => 40
  | .addressInUse => 98
  | .connectionRefused => 111

/-- The system's words for a refusal. -/
def text : OsError → String
  | .noEntry => "No such file or directory"
  | .noDevice => "No such device or address"
  | .execFormat => "Exec format error"
  | .badDescriptor => "Bad file descriptor"
  | .permissionDenied => "Permission denied"
  | .fileExists => "File exists"
  | .notADirectory => "Not a directory"
  | .isADirectory => "Is a directory"
  | .invalidArgument => "Invalid argument"
  | .noSpace => "No space left on device"
  | .brokenPipe => "Broken pipe"
  | .nameTooLong => "File name too long"
  | .notEmpty => "Directory not empty"
  | .tooManyLinks => "Too many levels of symbolic links"
  | .addressInUse => "Address already in use"
  | .connectionRefused => "Connection refused"

/-- The sentence that reports a refusal. -/
def message (e : OsError) : String :=
  s!"{e.text} (os error {e.number})"

end OsError

/-- The kinds of input and output errors that make a difference to a caller. -/
inductive IoKind where
  | notFound
  | connectionRefused
  | other
deriving Repr, DecidableEq

/-- Why an input or output operation failed. -/
inductive IoError where
  /-- The operating system refused it. -/
  | os (e : OsError)
  /-- What was read is not UTF-8. -/
  | notText
  /-- A program or an argument holds the NUL character. -/
  | nulInArgument
  /-- A file name holds the NUL character. -/
  | nulInPath
  /-- A socket address holds the NUL character. -/
  | nulInAddress
  /-- A socket address does not fit. -/
  | addressTooLong
  /-- The name of a detached socket does not fit. -/
  | detachedNameTooLong
  /-- Someone else reports it. -/
  | reported (kind : IoKind) (text : String)
deriving Repr, DecidableEq

namespace IoError

/-- The kind of an error. -/
def kind : IoError → IoKind
  | .os .noEntry => .notFound
  | .os .connectionRefused => .connectionRefused
  | .os _ => .other
  | .reported kind _ => kind
  | .notText => .other
  | .nulInArgument => .other
  | .nulInPath => .other
  | .nulInAddress => .other
  | .addressTooLong => .other
  | .detachedNameTooLong => .other

/-- The sentence that reports an error. -/
def message : IoError → String
  | .os e => e.message
  | .notText => "stream did not contain valid UTF-8"
  | .nulInArgument => "nul byte found in provided data"
  | .nulInPath => "file name contained an unexpected NUL byte"
  | .nulInAddress => "paths must not contain interior null bytes"
  | .addressTooLong => "path must be shorter than SUN_LEN"
  | .detachedNameTooLong => "abstract socket name must be shorter than SUN_LEN"
  | .reported _ text => text

end IoError

end Streamkeeper.Host
