import Streamkeeper.StandIn.Shell.Builtin.Flags
import Streamkeeper.StandIn.Shell.Search

/-!
Builtins for the working directory and for what new files may be.
-/

namespace Streamkeeper.StandIn.Shell.Builtin

open Host (Place)

/-- The slashes that a full path begins with: two of them stay, any other number is one. -/
def rootOf : List Char → List Char
  | '/' :: '/' :: '/' :: _ => ['/']
  | '/' :: '/' :: _ => ['/', '/']
  | _ => ['/']

/-- The path that another path leads to, names going up taken away with the names before them. -/
def resolved (here path : List Char) : List Char :=
  let isFull : Bool := path.head? == some '/'
  let start : List (List Char) :=
    if isFull then [] else (here.splitOn '/').filter fun n => !n.isEmpty
  let names := (path.splitOn '/').foldl (fun (ns : List (List Char)) n =>
    if n.isEmpty || n == ['.'] then ns
    else if n == ['.', '.'] then ns.dropLast
    else ns ++ [n]) start
  rootOf (if isFull then path else here) ++ ['/'].intercalate names

/-- The path of a place. -/
def pathOf (place : Place) : List Char :=
  '/' :: ['/'].intercalate (place.map ofString)

/-- Goes to a directory. -/
def goTo (physically : Bool) (wanted : List Char) : Run Unit := do
  let s ← get
  let path := if physically then wanted else resolved s.directoryPath wanted
  match s.files.locate true (toName path) with
  | .ok (.taken place .directory) =>
    let before := s.directoryPath
    let now := if physically then pathOf place else path
    set { s with directory := place, directoryPath := now }
    Run.assign "OLDPWD" before true
    Run.assign "PWD" now true
  | _ => Run.fail s!"can't cd to {toName wanted}"

/-- Does a path say by itself where it begins? -/
def isAnchored (path : List Char) : Bool :=
  match path with
  | '/' :: _ => true
  | _ => (path.takeWhile (· != '/')) == ['.'] || (path.takeWhile (· != '/')) == ['.', '.']

/-- The directory that a path stands for among those that are searched, and whether it is shown. -/
def searched (s : State) (path : List Char) : List Char × Bool :=
  match if isAnchored path then none else s.value? "CDPATH" with
  | none => (path, false)
  | some places =>
    let found := (places.splitOn ':').find? fun d =>
      s.files.stat (toName (Search.inDirectory d path)) matches .ok .directory
    match found with
    | some d => (Search.inDirectory d path, !d.isEmpty)
    | none => (path, false)

/-- Changes the working directory. -/
def cd (args : List (List Char)) : Run Nat := do
  let (fs, args) ← readFlags [('L', false), ('P', false)] args
  let physically : Bool := (fs.getLast?.map (·.letter)) == some 'P'
  let s ← get
  let (wanted, returns) := match args with
    | [] => ((s.value? "HOME").getD [], false)
    | ['-'] :: _ => ((s.value? "OLDPWD").getD [], true)
    | path :: _ => (path, false)
  let (wanted, shows) := searched s (if wanted.isEmpty then ['.'] else wanted)
  goTo physically wanted
  if returns || shows then printLine (← get).directoryPath
  return 0

/-- Shows the working directory. -/
def pwd (args : List (List Char)) : Run Nat := do
  let (fs, _) ← readFlags [('L', false), ('P', false)] args
  let s ← get
  let physically : Bool := (fs.getLast?.map (·.letter)) == some 'P'
  printLine (if physically then pathOf s.directory else s.directoryPath)
  return 0

/-- Octal digits of a number, at least four of them. -/
def octal (n : Nat) : List Char :=
  let ds := Nat.toDigits 8 n
  List.replicate (4 - ds.length) '0' ++ ds

/-- The permissions that a mask leaves, for the user, the group and others. -/
def permissions (mask : Nat) : List Char :=
  let part (who : Char) (n : Nat) : List Char :=
    let letter (c : Char) (bit : Nat) : List Char := if n / bit % 2 = 0 then [c] else []
    who :: '=' :: (letter 'r' 4 ++ letter 'w' 2 ++ letter 'x' 1)
  [','].intercalate [part 'u' (mask / 64), part 'g' (mask / 8), part 'o' mask]

/-- The bits of whom a permission is for. -/
def whose : List (Char × Nat) :=
  [('u', 0o700), ('g', 0o070), ('o', 0o007), ('a', 0o777)]

/-- The bits of a permission for everybody; permissions that make no difference here have none. -/
def permissionBits (now : Nat) : Char → Option Nat
  | 'r' => some 0o444
  | 'w' => some 0o222
  | 'x' => some 0o111
  | 'X' => some (if now &&& 0o111 = 0 then 0 else 0o111)
  | 's' => some 0
  | 't' => some 0
  | 'u' => some (now / 64 % 8 * 0o111)
  | 'g' => some (now / 8 % 8 * 0o111)
  | 'o' => some (now % 8 * 0o111)
  | _ => none

/-- The permissions after changes like `+w-x` to those of the named. -/
def changed (who : Nat) : (fuel : Nat) → List Char → Nat → Option Nat
  | 0, _, now => some now
  | fuel + 1, cs, now =>
    match cs with
    | [] => some now
    | sign :: rest =>
      let letters := rest.takeWhile fun c => (permissionBits now c).isSome
      let bits := (letters.filterMap (permissionBits now)).foldl (· ||| ·) 0 &&& who
      let after := changed who fuel (rest.drop letters.length)
      match sign with
      | '=' => after (now - (now &&& who) ||| bits)
      | '+' => after (now ||| bits)
      | '-' => after (now - (now &&& bits))
      | _ => none

/-- The permissions after changes between commas. -/
def changedBy (mode : List Char) (now : Nat) : Option Nat :=
  (mode.splitOn ',').foldlM (fun now part =>
    let named := part.takeWhile fun c => (whose.lookup c).isSome
    let who := (named.filterMap (List.lookup · whose)).foldl (· ||| ·) 0
    let changes := part.drop named.length
    if changes.isEmpty then none
    else changed (if who = 0 then 0o777 else who) (changes.length + 1) changes now) now

/-- Sets or shows what new files may not be. -/
def umask (args : List (List Char)) : Run Nat := do
  let (fs, args) ← readFlags [('S', false)] args
  let mask := (← get).mask
  match args with
  | [] =>
    printLine (if fs.isEmpty then octal mask else permissions mask)
    return 0
  | [] :: _ => return 0
  | (c :: cs) :: _ =>
    let w := c :: cs
    if c.isDigit then
      if w.all fun c => '0' ≤ c && c ≤ '7' then
        modify fun s => { s with mask := Nat.ofDigitChars 8 w 0 % 512 }
        return 0
      else Run.fail s!"Illegal number: {toName w}"
    else
      match changedBy w (511 - mask) with
      | some allowed =>
        modify fun s => { s with mask := 511 - allowed }
        return 0
      | none => Run.fail s!"Illegal mode: {toName w}"

/-- The letters of what a process may use. -/
def limitLetters : List Char := "HSatfdscmlpnvwr".toList

/-- Shows how much a process may use, and takes limits without keeping them. -/
def ulimit (args : List (List Char)) : Run Nat := do
  let (_, args) ← readFlags (limitLetters.map fun c => (c, false)) args
  match args with
  | [] =>
    printLine (ofString "unlimited")
    return 0
  | [w] =>
    if w == ofString "unlimited" || (w.all Char.isDigit) then return 0 else Run.fail "bad number"
  | _ => Run.fail "too many arguments"

end Streamkeeper.StandIn.Shell.Builtin
