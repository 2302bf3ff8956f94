import Streamkeeper.StandIn.Shell.Fields
import Streamkeeper.StandIn.Shell.Tool.Excerpt
import Streamkeeper.StandIn.Shell.Tool.Printing

/-!
Tools that make, remove, copy and list files.

Such a tool goes through its operands one after the other; what cannot be done is reported, and the
others are still done.
-/

namespace Streamkeeper.StandIn.Shell.Tool

open Host

/-- What is left after some operands: the files, messages, and lines of output. -/
structure Progress where
  files : FileSystem
  messages : List String
  lines : List (List Char)

namespace Progress

/-- Nothing done yet. -/
def start (i : Invocation) : Progress := ⟨i.files, [], []⟩

/-- Takes a message on. -/
def complain (p : Progress) (m : String) : Progress := { p with messages := p.messages ++ [m] }

/-- Takes other files on. -/
def withFiles (p : Progress) (fs : FileSystem) : Progress := { p with files := fs }

/-- Takes a line on if it is wanted. -/
def report (p : Progress) (wanted : Bool) (line : String) : Progress :=
  if wanted then { p with lines := p.lines ++ [ofString line] } else p

/-- The reply of a tool that has come to its end. -/
def reply (i : Invocation) (p : Progress) : Reply :=
  { Reply.outcome i (if p.messages.isEmpty then 0 else 1) with
    writings := p.messages.map (fun m => (2, .ofString (m ++ "\n"))) ++
      (if p.lines.isEmpty then [] else [(1, .ofChars (p.lines.flatMap (· ++ ['\n'])))])
    files := p.files }

end Progress

/-- Goes through operands, of which there has to be one. -/
def each (i : Invocation) (o : Options) (f : Progress → List Char → Progress) : Reply :=
  if o.operands.isEmpty then .failure i 1 (s!"{i.self}: missing operand" ++ hint i.self)
  else (o.operands.foldl f (.start i)).reply i

/-- The places below a place. -/
def below (fs : FileSystem) (place : Place) : List Place :=
  (fs.nodes.map (·.1)).filter fun p => place.isPrefixOf p && p != place

/-- The place of an entry, a link at the end not followed. -/
def entry (fs : FileSystem) (path : List Char) : Except IoError (Place × Node) :=
  match fs.locate false (toName path) with
  | .ok (.taken place node) => .ok (place, node)
  | .ok (.free _) => .error (.os .noEntry)
  | .error e => .error e

/-! ### Directories -/

/-- Makes directories. -/
def mkdir (i : Invocation) (o : Options) : Reply :=
  each i o fun p path =>
    if o.has 'p' then
      let (fs, r) := p.files.makeDirectories (toName path)
      match r with
      | .ok _ => p.withFiles fs
      | .error e => (p.withFiles fs).complain s!"{i.self}: cannot create directory {quoted path}: {reason e}"
    else
      match p.files.makeDirectory (toName path) with
      | .ok fs =>
        (p.withFiles fs).report (o.has 'v') s!"{i.self}: created directory {quoted path}"
      | .error e => p.complain s!"{i.self}: cannot create directory {quoted path}: {reason e}"

/-- Removes empty directories. -/
def rmdir (i : Invocation) (o : Options) : Reply :=
  each i o fun p path =>
    let refuse (e : IoError) : Progress := p.complain s!"{i.self}: failed to remove {quoted path}: {reason e}"
    match entry p.files path with
    | .ok (place, .directory) =>
      if (p.files.entries place).isEmpty then p.withFiles (p.files.clear place)
      else refuse (.os .notEmpty)
    | .ok _ => refuse (.os .notADirectory)
    | .error e => refuse e

/-- Removes files, and directories with all that is in them. -/
def rm (i : Invocation) (o : Options) : Reply :=
  if o.operands.isEmpty && o.has 'f' then .outcome i 0
  else
    each i o fun p path =>
      match entry p.files path with
      | .ok (place, .directory) =>
        if o.has 'r' || o.has 'R' then
          p.withFiles ((below p.files place).foldl FileSystem.clear (p.files.clear place))
        else if o.has 'd' then
          if (p.files.entries place).isEmpty then p.withFiles (p.files.clear place)
          else p.complain s!"{i.self}: cannot remove {quoted path}: Directory not empty"
        else p.complain s!"{i.self}: cannot remove {quoted path}: Is a directory"
      | .ok (place, _) =>
        (p.withFiles (p.files.clear place)).report (o.has 'v') s!"removed {quoted path}"
      | .error e =>
        if o.has 'f' then p else p.complain s!"{i.self}: cannot remove {quoted path}: {reason e}"

/-- Makes empty files where there are none. -/
def touch (i : Invocation) (o : Options) : Reply :=
  if o.operands.isEmpty then .failure i 1 (s!"{i.self}: missing file operand" ++ hint i.self)
  else
    each i o fun p path =>
      match p.files.locate true (toName path) with
      | .ok (.free place) =>
        if FileSystem.wantsDirectory (toName path) then
          p.complain s!"{i.self}: setting times of {quoted path}: No such file or directory"
        else if o.has 'c' then p
        else p.withFiles (p.files.put place (.file [] false))
      | .ok _ => p
      | .error e => p.complain s!"{i.self}: cannot touch {quoted path}: {reason e}"

/-- Whether files may be run after a change of their mode such as `u+x`; `now` says whether they may
before. -/
def mayRunAfter (now : Bool) (change : List Char) : Option Bool :=
  let who := change.takeWhile ['u', 'g', 'o', 'a'].contains
  match change.drop who.length with
  | sign :: letters =>
    let runs : Bool := letters.contains 'x'
    if !letters.all ['r', 'w', 'x', 'X', 's', 't'].contains then none
    else
      match sign with
      | '+' => some (now || runs)
      | '-' => some (now && !runs)
      | '=' => some runs
      | _ => none
  | [] => none

/-- Whether files may be run after they get a mode. -/
def mayRun (now : Bool) (mode : List Char) : Option Bool :=
  if mode.all fun c => '0' ≤ c && c ≤ '7' then some ((Nat.ofDigitChars 8 mode 0) &&& 0o111 != 0)
  else (mode.splitOn ',').foldlM mayRunAfter now

/-- Lets files be run, or not. -/
def chmod (i : Invocation) (o : Options) : Reply :=
  match i.arguments.filter fun a => a != ['-', 'R'] with
  | [] => .failure i 1 (s!"{i.self}: missing operand" ++ hint i.self)
  | [mode] => .failure i 1 (s!"{i.self}: missing operand after {quoted mode}" ++ hint i.self)
  | mode :: paths =>
    if (mayRun false mode).isNone then
      .failure i 1 (s!"{i.self}: invalid mode: {quoted mode}" ++ hint i.self)
    else (paths.foldl (fun (p : Progress) path =>
      match p.files.locate true (toName path) with
      | .ok (.taken place (.file content executable)) =>
        p.withFiles (p.files.put place (.file content ((mayRun executable mode).getD executable)))
      | .ok (.taken _ _) => p
      | .ok (.free _) => p.complain s!"{i.self}: cannot access {quoted path}: No such file or directory"
      | .error e => p.complain s!"{i.self}: cannot access {quoted path}: {reason e}")
      (.start i)).reply { i with arguments := o.operands }

/-! ### Copies, moves and links -/

/-- Splits operands into sources and the last one, which must be a directory for several sources. -/
def withTarget (i : Invocation) (o : Options) : Except String (List (List Char) × List Char) :=
  match o.operands.reverse with
  | [] => .error (s!"{i.self}: missing file operand" ++ hint i.self)
  | [a] => .error (s!"{i.self}: missing destination file operand after {quoted a}" ++ hint i.self)
  | [target, source] => .ok ([source], target)
  | target :: sources =>
    match i.files.stat (toName target) with
    | .ok .directory => .ok (sources.reverse, target)
    | .ok _ => .error s!"{i.self}: target {quoted target}: Not a directory"
    | .error e => .error s!"{i.self}: target {quoted target}: {reason e}"

/-- The path that a source gets: the target, or its own name in it. -/
def targetPath (fs : FileSystem) (source target : List Char) : List Char :=
  if fs.isDirectory (toName target) then
    ofString (Path.join (toName target) (toName (lastName source)))
  else target

/-- Puts a node, and everything that was below its old place, at a new place. -/
def graft (fs : FileSystem) (old new : Place) (node : Node) : FileSystem :=
  (below fs old).foldl (fun (fs : FileSystem) p =>
    match fs.node? p with
    | some n => fs.put (new ++ p.drop old.length) n
    | none => fs) (fs.put new node)

/-- Does a node at one place stand in the way of a node that is to be put there? -/
def standsInTheWay (node : Node) : Spot → Bool
  | .taken _ .directory => false
  | .taken _ _ => node == .directory
  | .free _ => false

/-- Copies files. -/
def cp (i : Invocation) (o : Options) : Reply :=
  match withTarget i o with
  | .error m => .failure i 1 m
  | .ok (sources, target) =>
    let deep : Bool := o.has 'r' || o.has 'R' || o.has 'a'
    let step (p : Progress) (source : List Char) : Progress :=
      let refuse (m : String) : Progress := p.complain s!"{i.self}: {m}"
      match p.files.locate true (toName source) with
      | .error e => refuse s!"cannot stat {quoted source}: {reason e}"
      | .ok (.free _) => refuse s!"cannot stat {quoted source}: No such file or directory"
      | .ok (.taken place node) =>
        let path := targetPath p.files source target
        if node = .directory && !deep then
          refuse s!"-r not specified; omitting directory {quoted source}"
        else
          match p.files.locate true (toName path) with
          | .error e => refuse s!"cannot create regular file {quoted path}: {reason e}"
          | .ok spot =>
            if node = .directory && place.isPrefixOf spot.place then
              refuse s!"cannot copy a directory, {quoted source}, into itself, {quoted path}"
            else if spot.place = place then
              refuse s!"{quoted source} and {quoted path} are the same file"
            else if standsInTheWay node spot then
              refuse s!"cannot overwrite non-directory {quoted path} with directory {quoted source}"
            else
              match spot, node with
              | .taken there (.file _ executable), .file content _ =>
                p.withFiles (p.files.put there (.file content executable))
              | .taken there _, _ => p.withFiles (graft p.files place there node)
              | .free there, _ =>
                if FileSystem.wantsDirectory (toName path) && node != .directory then
                  refuse s!"cannot create regular file {quoted path}: Not a directory"
                else p.withFiles (graft p.files place there node)
    (sources.foldl step (.start i)).reply i

/-- Moves files. -/
def mv (i : Invocation) (o : Options) : Reply :=
  match withTarget i o with
  | .error m => .failure i 1 m
  | .ok (sources, target) =>
    let step (p : Progress) (source : List Char) : Progress :=
      let refuse (m : String) : Progress := p.complain s!"{i.self}: {m}"
      match entry p.files source with
      | .error e => refuse s!"cannot stat {quoted source}: {reason e}"
      | .ok (place, node) =>
        let path := targetPath p.files source target
        match p.files.locate false (toName path) with
        | .error e => refuse s!"cannot move {quoted source} to {quoted path}: {reason e}"
        | .ok spot =>
          let there := spot.place
          if there = place then refuse s!"{quoted source} and {quoted path} are the same file"
          else if node = .directory && place.isPrefixOf there then
            refuse s!"cannot move {quoted source} to a subdirectory of itself, {quoted path}"
          else if standsInTheWay node spot then
            refuse s!"cannot overwrite non-directory {quoted path} with directory {quoted source}"
          else
            let moved := graft p.files place there node
            p.withFiles ((below moved place).foldl FileSystem.clear (moved.clear place))
    (sources.foldl step (.start i)).reply i

/-- Makes links. -/
def ln (i : Invocation) (o : Options) : Reply :=
  match o.operands with
  | [] => .failure i 1 (s!"{i.self}: missing file operand" ++ hint i.self)
  | source :: rest =>
    let target := rest.headD ['.']
    let path := targetPath i.files source target
    match i.files.locate false (toName path), i.files.locate true (toName source) with
    | .error e, _ => .failure i 1 s!"{i.self}: failed to create link {quoted path}: {reason e}"
    | .ok (.taken place _), linked =>
      if o.has 'f' then
        match o.has 's', linked with
        | true, _ => { Reply.outcome i 0 with files := i.files.put place (.link (toName source)) }
        | false, .ok (.taken _ node) => { Reply.outcome i 0 with files := i.files.put place node }
        | false, _ => .failure i 1 s!"{i.self}: failed to access {quoted source}: No such file or directory"
      else
        let kind := if o.has 's' then "symbolic" else "hard"
        .failure i 1 s!"{i.self}: failed to create {kind} link {quoted path}: File exists"
    | .ok (.free place), linked =>
      match o.has 's', linked with
      | true, _ => { Reply.outcome i 0 with files := i.files.put place (.link (toName source)) }
      | false, .ok (.taken _ .directory) =>
        .failure i 1 s!"{i.self}: {toName source}: hard link not allowed for directory"
      | false, .ok (.taken _ node) => { Reply.outcome i 0 with files := i.files.put place node }
      | false, _ => .failure i 1 s!"{i.self}: failed to access {quoted source}: No such file or directory"

/-! ### Looking -/

/-- Names in order. -/
def inOrder (names : List (List Char)) : List (List Char) :=
  names.mergeSort fun a b => !decide (b < a)

/-- A name with a mark that tells what it names, if marks are wanted. -/
def marked (o : Options) (fs : FileSystem) (place : Place) (name : List Char) : List Char :=
  match fs.node? place with
  | some .directory => if o.has 'F' || o.has 'p' then name ++ ['/'] else name
  | some (.file _ true) => if o.has 'F' then name ++ ['*'] else name
  | some (.link _) => if o.has 'F' then name ++ ['@'] else name
  | _ => name

/-- The names in a directory that are shown. -/
def visible (o : Options) (fs : FileSystem) (place : Place) : List (List Char) :=
  let names := inOrder ((fs.entries place).map ofString)
  if o.has 'a' || o.has 'A' then names else names.filter fun n => n.head? != some '.'

/-- What a directory holds, and with a flag for that also what the directories in it hold, each under
its path. -/
def listing (o : Options) (fs : FileSystem) (titled : Bool) :
    (depth : Nat) → List Char → Place → List (List (List Char))
  | 0, _, _ => []
  | depth + 1, path, place =>
    let names := visible o fs place
    let names := if o.has 'r' then names.reverse else names
    let above : List (List Char) := if o.has 'a' then [['.'], ['.', '.']] else []
    let here := above ++ names.map fun n => marked o fs (place ++ [toName n]) n
    let inner := if o.has 'R' then
        names.filter fun n => fs.node? (place ++ [toName n]) == some .directory
      else []
    ((if titled then [path ++ [':']] else []) ++ here) ::
      inner.flatMap fun n =>
        listing o fs titled depth (if path.getLast? = some '/' then path ++ n else path ++ '/' :: n)
          (place ++ [toName n])

/-- Lists files and what directories hold. -/
def ls (i : Invocation) (o : Options) : Reply :=
  let fs := i.files
  let operands := if o.operands.isEmpty then [['.']] else o.operands
  let found := (inOrder operands).map fun n => (n, fs.locate (!o.has 'd') (toName n))
  let missing := found.filterMap fun (n, r) =>
    match r with
    | .ok (.free _) => some s!"{i.self}: cannot access {quoted n}: No such file or directory"
    | .error e => some s!"{i.self}: cannot access {quoted n}: {reason e}"
    | .ok _ => none
  let plain := found.filterMap fun (n, r) =>
    match r with
    | .ok (.taken place node) =>
      if node = .directory && !o.has 'd' then none else some (marked o fs place n)
    | _ => none
  let directories := found.filterMap fun (n, r) =>
    match r with
    | .ok (.taken place .directory) => if o.has 'd' then none else some (n, place)
    | _ => none
  let turn {α : Type} (xs : List α) : List α := if o.has 'r' then xs.reverse else xs
  let titled : Bool := operands.length > 1 || o.has 'R'
  let blocks := (if plain.isEmpty then [] else [turn plain]) ++
    (turn directories).flatMap fun d => listing o fs titled (fs.nodes.length + 1) d.1 d.2
  let lines := [[]].intercalate blocks
  { (Progress.mk fs missing lines).reply i with status := if missing.isEmpty then 0 else 2 }

/-- The options of `ls`. -/
def lsGrammar : Grammar :=
  ⟨"1aAdrRtFp", "", [("all", 'a'), ("almost-all", 'A'), ("directory", 'd'), ("recursive", 'R'),
    ("reverse", 'r')]⟩

/-- Writes its input to files and to its output. -/
def tee (i : Invocation) (o : Options) : Reply :=
  let s : Supply := match i.input with
    | .ok s => s
    | .error _ => .empty
  let p := o.operands.foldl (fun (p : Progress) path =>
    match p.files.locate true (toName path) with
    | .error e => p.complain s!"{i.self}: {named path}: {reason e}"
    | .ok (.taken _ .directory) => p.complain s!"{i.self}: {named path}: Is a directory"
    | .ok (.taken place (.file old executable)) =>
      let before := if o.has 'a' then old else []
      p.withFiles (p.files.put place (.file (before ++ s.octets) executable))
    | .ok (.taken _ _) => p
    | .ok (.free place) => p.withFiles (p.files.put place (.file s.octets false))) (.start i)
  let r := p.reply i
  { r with writings := (1, s) :: r.writings }

end Streamkeeper.StandIn.Shell.Tool
