import Streamkeeper.Host.Files
import Streamkeeper.StandIn.Shell.Signal
import Streamkeeper.StandIn.Shell.Supply

/-!
What processes share: files, pipes, the time, and each other.

A process reaches open files by descriptors of its own, while the open files, each with a place where
reading and writing go on, are shared.  A pipe holds what was written and not read yet; who reads it
finds its end once nobody can write to it any more, and who writes to it fails once nobody can read it.
-/

namespace Streamkeeper.StandIn.Shell

open Host (FileSystem OsError Place)

/-- The number of a process. -/
abbrev ProcessId := Nat

/-- A time, in microseconds from the start. -/
abbrev Time := Nat

/-- A file that was opened. -/
inductive OpenFile where
  /-- A file, and the place in it where reading and writing go on. -/
  | file (place : Place) (offset : Nat) (append reads writes : Bool)
  | directory
  /-- What is written is seen by others. -/
  | channel (n : Nat)
  | readEnd (pipe : Nat)
  | writeEnd (pipe : Nat)
  /-- Gives zeros without end. -/
  | zeros
  /-- Takes everything and gives nothing. -/
  | sink
  /-- Takes nothing any more, and gives zeros without end. -/
  | full
deriving Repr, DecidableEq

/-- What was written to a pipe and not read yet, with the number of its octets before what repeats. -/
structure Pipe where
  content : Supply
  size : Nat
  size_eq : size = content.octets.length

namespace Pipe

/-- A pipe that holds a supply. -/
def holding (s : Supply) : Pipe := ⟨s, s.octets.length, rfl⟩

/-- An empty pipe. -/
def empty : Pipe := holding .empty

/-- Writes behind what is there. -/
def append (p : Pipe) (s : Supply) : Pipe :=
  if h : p.content.isEndless then p
  else
    ⟨p.content.append s, p.size + s.octets.length, by
      rw [Supply.append, if_neg h, List.length_append, ← p.size_eq]⟩

/-- Reads octets away. -/
def drop (p : Pipe) (count : Nat) : Pipe :=
  if h : p.content.isEndless then holding (p.content.drop count)
  else
    ⟨p.content.drop count, p.size - count, by
      rw [Supply.drop, if_pos (by simp [h]), List.length_drop, ← p.size_eq]⟩

end Pipe

/-- How a process ended. -/
inductive Ending where
  | status (n : Nat)
  | signal (s : Signal)
deriving Repr, DecidableEq

/-- The outcome that a script sees of a process. -/
def Ending.code : Ending → Nat
  | .status n => n % 256
  | .signal s => 128 + s

/-- What is known of a process. -/
structure ProcessState where
  parent : ProcessId
  descriptors : Table Nat Nat
  /-- The open files that it will need again. -/
  kept : List Nat
  /-- The signals that it does not care for, and those that it looks after itself. -/
  ignored : List Signal
  caught : List Signal
  /-- The signals that it has not looked after yet. -/
  arrived : List Signal
  ending : Option Ending
  /-- Did its parent take notice of its end? -/
  noticed : Bool

/-- What all processes share. -/
structure World where
  files : FileSystem
  opened : Table Nat OpenFile
  pipes : Table Nat Pipe
  processes : Table ProcessId ProcessState
  /-- What was written to channels, the latest first. -/
  written : List (Nat × Supply)
  clock : Time
  /-- The numbers from here on are free. -/
  next : Nat

namespace World

/-- The channel of standard output. -/
def outputChannel : Nat := 1

/-- The channel of standard error. -/
def errorChannel : Nat := 2

/-- The number of the first process, and of the one that started it. -/
def firstProcess : ProcessId := 1000

/-- The world of a first process: standard input is empty, standard output and standard error are
channels. -/
def initial (files : FileSystem) : World where
  files := files
  opened := [(0, .sink), (1, .channel outputChannel), (2, .channel errorChannel)]
  pipes := []
  processes :=
    [(firstProcess,
      { parent := firstProcess - 1, descriptors := [(0, 0), (1, 1), (2, 2)], kept := [],
        ignored := [], caught := [], arrived := [], ending := none, noticed := false })]
  written := []
  clock := 0
  next := firstProcess + 1

/-- Takes a free number. -/
def fresh (w : World) : Nat × World :=
  (w.next, { w with next := w.next + 1 })

/-- What was written to a channel. -/
def channel (w : World) (n : Nat) : Supply :=
  .join ((w.written.reverse.filter fun x => x.1 == n).map (·.2))

/-! ### Processes -/

/-- Changes what is known of a process. -/
def update (w : World) (p : ProcessId) (f : ProcessState → ProcessState) : World :=
  match w.processes.get? p with
  | some s => { w with processes := w.processes.set p (f s) }
  | none => w

/-- How a process ended, if it did. -/
def ending? (w : World) (p : ProcessId) : Option Ending :=
  (w.processes.get? p).bind ProcessState.ending

/-- Has a process not ended? -/
def isAlive (w : World) (p : ProcessId) : Bool :=
  match w.processes.get? p with
  | some s => s.ending.isNone
  | none => false

/-- The descriptors of a process. -/
def descriptors (w : World) (p : ProcessId) : Table Nat Nat :=
  ((w.processes.get? p).map ProcessState.descriptors).getD []

/-- Gives a process other descriptors. -/
def withDescriptors (w : World) (p : ProcessId) (ds : Table Nat Nat) : World :=
  w.update p fun s => { s with descriptors := ds }

/-- Ends a process. -/
def finish (w : World) (p : ProcessId) (e : Ending) : World :=
  w.update p fun s =>
    if s.ending.isSome then s else
      { s with ending := some e, descriptors := [], kept := [], arrived := [] }

/-- The signals that wait for a process. -/
def arrived (w : World) (p : ProcessId) : List Signal :=
  ((w.processes.get? p).map ProcessState.arrived).getD []

/-- Sends a signal to a process; none if there is no such process. -/
def send? (w : World) (receiver : ProcessId) (s : Signal) : Option World :=
  match w.processes.get? receiver with
  | none => none
  | some p =>
    if p.noticed then none
    else if s = 0 || p.ending.isSome then some w
    else if s = Signal.kill then some (w.finish receiver (.signal s))
    else if p.ignored.contains s then some w
    else if p.caught.contains s then
      some (w.update receiver fun p => { p with arrived := (s :: p.arrived.erase s).mergeSort })
    else if Signal.isFatal s then some (w.finish receiver (.signal s))
    else some w

/-! ### Open files -/

/-- Opens a file. -/
def openFile (w : World) (f : OpenFile) : Nat × World :=
  let (n, w) := w.fresh
  (n, { w with opened := (n, f) :: w.opened })

/-- Makes an empty pipe. -/
def openPipe (w : World) : Nat × World :=
  let (n, w) := w.fresh
  (n, { w with pipes := w.pipes.set n .empty })

/-- The open file behind a descriptor of a process. -/
def opened? (w : World) (p : ProcessId) (fd : Nat) : Option (Nat × OpenFile) :=
  ((w.descriptors p).get? fd).bind fun id => (w.opened.get? id).map fun f => (id, f)

/-- Does a process reach this open file? -/
def reaches (p : ProcessState) (id : Nat) : Bool :=
  p.kept.contains id || p.descriptors.any fun d => d.2 == id

/-- Does any process reach this open file? -/
def isHeld (w : World) (f : OpenFile) : Bool :=
  w.opened.any fun o => o.2 == f && w.processes.any fun p => reaches p.2 o.1

/-- Forgets the files and pipes that no process reaches. -/
def tidy (w : World) : World :=
  let opened := w.opened.filter fun o => w.processes.any fun p => reaches p.2 o.1
  let isOpen (n : Nat) : Bool := opened.any fun o => o.2 == .readEnd n || o.2 == .writeEnd n
  { w with opened := opened, pipes := w.pipes.filter fun p => isOpen p.1 }

/-- A process takes notice of those that it started and that have ended.  They are forgotten, unless
they are `wanted` later. -/
def notice (w : World) (parent : ProcessId) (wanted : List ProcessId) : World :=
  let ended (s : ProcessState) : Bool := s.parent == parent && s.ending.isSome
  let left := w.processes.filter fun e => !ended e.2 || wanted.contains e.1
  tidy
    { w with
      processes := left.map fun e => if ended e.2 then (e.1, { e.2 with noticed := true }) else e }

/-- A pipe by its number. -/
def pipe (w : World) (n : Nat) : Pipe :=
  (w.pipes.get? n).getD .empty

/-- Can nothing follow what a pipe holds? -/
def isComplete (w : World) (n : Nat) : Bool :=
  (w.pipe n).content.isEndless || !w.isHeld (.writeEnd n)

/-- The octets that a pipe holds before its writers have to wait. -/
def pipeCapacity : Nat := 65536

/-- What can be read from an open file now, and whether that is all. -/
def readable (w : World) (f : OpenFile) : Except OsError (Supply × Bool) :=
  match f with
  | .sink => .ok (.empty, true)
  | .zeros => .ok (⟨[], [0]⟩, true)
  | .full => .ok (⟨[], [0]⟩, true)
  | .directory => .error .isADirectory
  | .channel _ => .error .badDescriptor
  | .writeEnd _ => .error .badDescriptor
  | .readEnd n => .ok ((w.pipe n).content, w.isComplete n)
  | .file place offset _ reads _ =>
    if reads then
      match w.files.node? place with
      | some (.file content _) => .ok (.ofOctets (content.drop offset), true)
      | _ => .ok (.empty, true)
    else .error .badDescriptor

/-- Takes octets away that were read from an open file. -/
def consume (w : World) (id : Nat) (count : Nat) : World :=
  match w.opened.get? id with
  | some (.readEnd n) => { w with pipes := w.pipes.set n ((w.pipe n).drop count) }
  | some (.file place offset append reads writes) =>
    { w with opened := w.opened.set id (.file place (offset + count) append reads writes) }
  | _ => w

/-- Content after octets are written at a place in it. -/
def overwrite (content : Octets) (offset : Nat) (bs : Octets) : Octets :=
  content.take offset ++ List.replicate (offset - content.length) 0 ++ bs ++
    content.drop (offset + bs.length)

/-- Writes to an open file. -/
def write (w : World) (id : Nat) (s : Supply) : Except OsError World :=
  match w.opened.get? id with
  | none => .error .badDescriptor
  | some .sink => .ok w
  | some .zeros => .ok w
  | some .full => .error .noSpace
  | some .directory => .error .badDescriptor
  | some (.readEnd _) => .error .badDescriptor
  | some (.channel n) => .ok { w with written := (n, s) :: w.written }
  | some (.writeEnd n) =>
    if w.isHeld (.readEnd n) then .ok { w with pipes := w.pipes.set n ((w.pipe n).append s) }
    else .error .brokenPipe
  | some (.file place offset append reads writes) =>
    if !writes then .error .badDescriptor
    else
      let (content, executable) := match w.files.node? place with
        | some (.file content executable) => (content, executable)
        | _ => ([], false)
      let start := if append then content.length else offset
      .ok
        { w with
          files :=
            if (w.files.node? place).isSome then
              w.files.put place (.file (overwrite content start s.octets) executable)
            else w.files
          opened := w.opened.set id (.file place (start + s.octets.length) append reads writes) }

/-- Writes to a descriptor of a process. -/
def writeTo (w : World) (p : ProcessId) (fd : Nat) (s : Supply) : Except OsError World :=
  if s.isEmpty then .ok w
  else
    match (w.descriptors p).get? fd with
    | none => .error .badDescriptor
    | some id => w.write id s

end World

end Streamkeeper.StandIn.Shell
