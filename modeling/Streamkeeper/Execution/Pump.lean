import Streamkeeper.Execution.Output

/-!
The loop that reads the standard output of a process.

Each round reads a chunk.  The handler gets it, unless it has refused one before; if output is
forwarded, the lines that the chunk completes are logged, and a line that is not complete waits for
the next chunk.  A read that gives nothing is the end of the output, and the line that waits then is
logged as it is.
-/

namespace Streamkeeper.Execution

variable {σ : Type}

/-- What the loop holds between two reads: the refusal of the handler, the line that waits, the lines
that were logged, and the state of the handler. -/
structure Pump (σ : Type) where
  refusal : Option String
  pending : Octets
  logged : List String
  kept : σ
deriving Repr, DecidableEq

namespace Pump

/-- The loop before its first read. -/
def initial (s : σ) : Pump σ :=
  { refusal := none, pending := [], logged := [], kept := s }

/-- Hands a chunk to the handler, if there is one that has refused nothing. -/
def hand (handler : Option (Handler σ)) (chunk : Octets) (p : Pump σ) : Pump σ :=
  match p.refusal, handler with
  | none, some h =>
    match h chunk p.kept with
    | (.ok _, s) => { p with kept := s }
    | (.error message, s) => { p with refusal := some message, kept := s }
  | _, _ => p

/-- A line as it is logged. -/
def logLine (line : Octets) : String :=
  withoutBlankEnd (Text.Utf8.decodeLossy line)

/-- Cuts octets behind every line feed: the complete lines, and what is left.  `line` is what comes
before the octets on their first line. -/
def cut (line : Octets) : Octets → List Octets × Octets
  | [] => ([], line)
  | b :: bs =>
    if b = Text.lineFeed then ((line ++ [b]) :: (cut [] bs).1, (cut [] bs).2)
    else cut (line ++ [b]) bs

/-- Logs the lines that are complete with a chunk. -/
def forward (chunk : Octets) (p : Pump σ) : Pump σ :=
  let (lines, rest) := cut [] (p.pending ++ chunk)
  { p with pending := rest, logged := p.logged ++ lines.map logLine }

/-- One chunk. -/
def take (handler : Option (Handler σ)) (forwards : Bool) (chunk : Octets) (p : Pump σ) : Pump σ :=
  let p := p.hand handler chunk
  if forwards then p.forward chunk else p

/-- The end of the output. -/
def finish (forwards : Bool) (p : Pump σ) : Pump σ :=
  if forwards = true ∧ p.pending ≠ [] then
    { p with pending := [], logged := p.logged ++ [logLine p.pending] }
  else p

/-- Reads to the end of the output.  `reads` is what one read after the other gives, none of which
fails; what is given back with the last state has not been read. -/
def run (handler : Option (Handler σ)) (forwards : Bool) :
    (reads : List Octets) → Pump σ → Pump σ × List Octets
  | [], p => (p.finish forwards, [])
  | chunk :: reads, p =>
    if chunk = [] then (p.finish forwards, reads)
    else run handler forwards reads (p.take handler forwards chunk)

end Pump

end Streamkeeper.Execution
