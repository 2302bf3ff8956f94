import Streamkeeper.StandIn.Shell.Expansion
import Streamkeeper.StandIn.Shell.Fork

/-!
Redirections.

The words of all redirections are expanded first; then one descriptor after the other is changed, until
one cannot be.
-/

namespace Streamkeeper.StandIn.Shell

open Host (FileSystem IoError Node OsError Place)

namespace Opening

/-- May it make a file? -/
def creates : Opening → Bool
  | .input => false
  | _ => true

/-- Is the file written? -/
def writes : Opening → Bool
  | .input => false
  | _ => true

/-- Is the file read? -/
def reads : Opening → Bool
  | .input => true
  | .inputOutput => true
  | _ => false

/-- Is what was in the file lost? -/
def clears : Opening → Bool
  | .output => true
  | .overwrite => true
  | _ => false

end Opening

namespace Redirection

/-- The words for a file that cannot be opened. -/
def reason (creates : Bool) : IoError → String
  | .os .noEntry => if creates then "Directory nonexistent" else "No such file"
  | .os .notADirectory => if creates then "Directory nonexistent" else "No such file"
  | .os e => e.text
  | e => e.message

/-- The descriptor that a path names. -/
def descriptor? (path : List Char) : Option Nat :=
  match toName path with
  | "/dev/stdin" => some 0
  | "/dev/stdout" => some 1
  | "/dev/stderr" => some 2
  | _ =>
    let digits? := ["/dev/fd/", "/proc/self/fd/"].findSome? fun p => p.toList.isPrefixOf? path
    digits?.bind natural?

/-- Reports that a file cannot be opened. -/
def refuse {α : Type} (o : Opening) (path : List Char) (e : IoError) : Run α :=
  let verb := if o.creates then "create" else "open"
  Run.fail s!"cannot {verb} {toName path}: {reason o.creates e}"

/-- The open file that a node becomes. -/
def ofNode (o : Opening) (place : Place) : Node → Except OsError OpenFile
  | .directory => if o.writes then .error .isADirectory else .ok .directory
  | .file _ _ => .ok (.file place 0 (o = .append) o.reads o.writes)
  | .tool _ => .ok (.file place 0 (o = .append) o.reads o.writes)
  | .socket => .error .noDevice
  | .link _ => .error .tooManyLinks
  | .zeros => .ok .zeros
  | .sink => .ok .sink
  | .full => .ok .full

/-- Opens a file for a descriptor. -/
def openFile (fd : Nat) (o : Opening) (path : List Char) : Run Unit := do
  let s ← get
  match descriptor? path with
  | some other =>
    match s.descriptors.get? other with
    | some id => set (s.withDescriptors (s.descriptors.set fd id))
    | none => refuse o path (.os .noEntry)
  | none =>
    match s.files.locate true (toName path) with
    | .error e => refuse o path e
    | .ok (.free place) =>
      if !o.creates then refuse o path (.os .noEntry)
      else if FileSystem.wantsDirectory (toName path) then refuse o path (.os .isADirectory)
      else
        let s := s.withFiles (s.world.files.put place (.file [] false))
        set (s.openAs fd (.file place 0 (o = .append) o.reads o.writes))
    | .ok (.taken place node) =>
      let isFile : Bool := match node with
        | .file _ _ => true
        | _ => false
      if isFile && o = .output && s.has 'C' then refuse o path (.os .fileExists)
      else
        match ofNode o place node with
        | .error e => refuse o path (.os e)
        | .ok f =>
          let s := match node with
            | .file _ executable =>
              if o.clears then s.withFiles (s.world.files.put place (.file [] executable)) else s
            | _ => s
          set (s.openAs fd f)

/-- Changes a descriptor. -/
def rewire : Rewiring → Run Unit
  | .file fd o path => openFile fd o path
  | .duplicate fd none => Run.withDescriptors (·.remove fd)
  | .duplicate fd (some other) => do
    if fd = other then return ()
    match (← get).descriptors.get? other with
    | some id => Run.withDescriptors (·.set fd id)
    | none => Run.fail s!"{Nat.repr other}: {OsError.badDescriptor.text}"
  | .document fd id => do
    let word := ((← get).documents.get? id).getD []
    let text ← Expansion.text Run.substitute .document word
    let (reading, _) ← Run.openPipe
    let s ← get
    let pipe := match s.world.opened.get? reading with
      | some (.readEnd n) => n
      | _ => 0
    set { s with world := { s.world with pipes := s.world.pipes.set pipe (.holding (.ofChars text)) } }
    Run.withDescriptors (·.set fd reading)

/-- Expands the words of a redirection. -/
def prepare : Redirection → Run Rewiring
  | .file fd o path => do return .file fd o (← Expansion.text Run.substitute .text path)
  | .duplicate fd other => return .duplicate fd other
  | .document fd id => return .document fd id
  | .duplicateNamed fd w => do
    match ← Expansion.text Run.substitute .text w with
    | ['-'] => return .duplicate fd none
    | [c] =>
      if c.isDigit then return .duplicate fd (some (c.toNat - '0'.toNat))
      else Run.fail "Syntax error: Bad fd number"
    | _ => Run.fail "Syntax error: Bad fd number"

/-- Changes descriptors; false if one of them cannot be changed, which was reported. -/
def applyAll (rs : List Rewiring) : Run Bool := do
  match ← Run.attempt (rs.forM rewire) with
  | .ok _ => return true
  | .error .mistake => return false
  | .error stop => throw stop

/-- Runs a step with descriptors that it may change; afterwards they are what they were before. -/
def restoring {α : Type} (step : Run α) : Run α := do
  let before := (← get).descriptors
  let keep (f : List Nat → List Nat) : Run Unit := modify fun s =>
    { s with world := s.world.update s.process fun p => { p with kept := f p.kept } }
  keep (before.values ++ ·)
  Run.after step do
    keep (·.drop before.length)
    Run.withDescriptors fun _ => before

end Redirection

end Streamkeeper.StandIn.Shell
