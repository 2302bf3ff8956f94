import Streamkeeper.Text.Blank
import Streamkeeper.Text.Lines

/-!
Reading what a process writes.

Standard output is read in chunks.  A handler gets them one by one until it refuses one; the rest is
still read.  Lines of standard output may be forwarded to the log, where octets that are no text do
no harm.  Standard error goes to the log line by line, and a line that is no text ends it.
-/

namespace Streamkeeper.Execution

/-- The most octets that are read at once. -/
def chunkSize : Nat := 4096

/-- Cuts octets into chunks; every round takes at least one octet. -/
def chunksFrom : (fuel : Nat) → Octets → List Octets
  | 0, _ => []
  | _, [] => []
  | fuel + 1, bytes => bytes.take chunkSize :: chunksFrom fuel (bytes.drop chunkSize)

/-- The chunks of octets that are there at once. -/
def chunks (bytes : Octets) : List Octets :=
  chunksFrom bytes.length bytes

/-- What takes the output of a process: it changes its state in `σ` and may refuse a chunk. -/
abbrev Handler (σ : Type) := Octets → σ → Except String Unit × σ

/-- Hands chunks to a handler up to the first one that it refuses, and gives its last state and the
refusal. -/
def deliver {σ : Type} (handler : Handler σ) : List Octets → σ → Option String × σ
  | [], s => (none, s)
  | chunk :: rest, s =>
    match handler chunk s with
    | (.ok _, s) => deliver handler rest s
    | (.error message, s) => (some message, s)

/-- A handler that keeps everything. -/
def collect : Handler (List Octets) :=
  fun chunk kept => (.ok (), kept ++ [chunk])

/-- A line without the blanks at its end. -/
def withoutBlankEnd (cs : List Char) : String :=
  String.ofList (Text.trimEnd Text.isBlank cs)

/-- The lines of an output as they are forwarded to the log. -/
def forwardedLines (bytes : Octets) : List String :=
  (Text.lines bytes).map fun l => withoutBlankEnd (Text.Utf8.decodeLossy l.octets)

/-- The lines of standard error that are logged, and the flaw of the first line that is no text. -/
def errorLines : List Text.Line → List String × Option Text.Utf8.Flaw
  | [] => ([], none)
  | l :: rest =>
    match l.text? with
    | .ok cs =>
      let (logged, flaw) := errorLines rest
      (withoutBlankEnd cs :: logged, flaw)
    | .error flaw => ([], some flaw)

end Streamkeeper.Execution
