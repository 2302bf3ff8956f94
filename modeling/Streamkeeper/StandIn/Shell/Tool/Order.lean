import Streamkeeper.StandIn.Shell.Tool.Excerpt

/-!
Tools that put lines in order or join those that are the same.

Lines are compared by keys.  A key is a part of the line, from a character of a field to a character of
a field, and says by itself how it is compared, or leaves it to the options.
-/

namespace Streamkeeper.StandIn.Shell.Tool

/-- How keys are compared. -/
structure Comparison where
  numeric : Bool
  reverse : Bool
  /-- Do capital and small letters count as the same? -/
  folds : Bool
  /-- Are blanks at the start left out? -/
  skipsBlanks : Bool
deriving Repr, DecidableEq

/-- The comparison that letters ask for. -/
def Comparison.ofLetters (cs : List Char) : Comparison :=
  ⟨cs.contains 'n', cs.contains 'r', cs.contains 'f', cs.contains 'b'⟩

/-- A place in a line: a field and a character of it, both counted from one.  Where an end names no
character, it is the end of the field. -/
structure KeyPlace where
  field : Nat
  char : Option Nat
deriving Repr, DecidableEq

/-- A part of a line by which it is compared. -/
structure SortKey where
  start : KeyPlace
  stop : Option KeyPlace
  comparison : Comparison
deriving Repr, DecidableEq

namespace SortKey

/-- The whole line. -/
def whole (c : Comparison) : SortKey := ⟨⟨1, none⟩, none, c⟩

/-- A place with the letters after it. -/
def place? (cs : List Char) : Option (KeyPlace × List Char) :=
  let field := cs.takeWhile Char.isDigit
  let rest := cs.drop field.length
  let char := match rest with
    | '.' :: rest => rest.takeWhile Char.isDigit
    | _ => []
  let letters := if rest.head? == some '.' then rest.drop (char.length + 1) else rest
  (natural? field).map fun n => (⟨n, natural? char⟩, letters)

/-- Reads a key; it is compared as the options say if it says nothing itself. -/
def ofChars? (others : Comparison) (w : List Char) : Option SortKey := do
  let (start, letters) ← place? (w.takeWhile (· != ','))
  let (stop, more) : Option KeyPlace × List Char ← match w.dropWhile (· != ',') with
    | _ :: rest => (place? rest).map fun r => (some r.1, r.2)
    | [] => some (none, [])
  let all := letters ++ more
  if start.field = 0 then none
  else some ⟨start, stop, if all.isEmpty then others else Comparison.ofLetters all⟩

/-- Is the octet a blank? -/
def isBlank (b : UInt8) : Bool := b == 32 || b == 9

/-- What is left of a line after some fields.  Without a separator, blanks begin a field. -/
def afterFields (separator : Option UInt8) : Nat → Octets → Octets
  | 0, l => l
  | n + 1, l =>
    let rest := match separator with
      | some b => (l.dropWhile (· != b)).drop 1
      | none => (l.dropWhile isBlank).dropWhile fun b => !isBlank b
    afterFields separator n rest

/-- The part of a line that is the key. -/
def part (separator : Option UInt8) (k : SortKey) (l : Octets) : Octets :=
  let skip (l : Octets) : Octets := if k.comparison.skipsBlanks then l.dropWhile isBlank else l
  let front := (skip (afterFields separator (k.start.field - 1) l)).drop (k.start.char.getD 1 - 1)
  match k.stop with
  | none => front
  | some ⟨field, char⟩ =>
    let behind := match char.filter (0 < ·) with
      | some n => (skip (afterFields separator (field - 1) l)).drop n
      | none =>
        let last := afterFields separator (field - 1) l
        match separator with
        | some b => last.dropWhile (· != b)
        | none => (last.dropWhile isBlank).dropWhile fun b => !isBlank b
    front.take (front.length - behind.length)

/-- The number at the beginning of a text, in billionths. -/
def leadingNumber (bs : Octets) : Int :=
  let cs := (ofOctets bs).dropWhile isSpace
  let (sign, cs) : Int × List Char := match cs with
    | '-' :: rest => (-1, rest)
    | _ => (1, cs)
  let whole := cs.takeWhile Char.isDigit
  let part := match cs.drop whole.length with
    | '.' :: rest => rest.takeWhile Char.isDigit
    | _ => []
  let part := (part ++ List.replicate 9 '0').take 9
  sign * Nat.ofDigitChars 10 (whole ++ part) 0

/-- Capital letters for small ones. -/
def folded (bs : Octets) : Octets :=
  bs.map fun b => (Char.ofNat b.toNat).toUpper.toNat.toUInt8

/-- Compares lines by a key. -/
def compare (separator : Option UInt8) (k : SortKey) (a b : Octets) : Ordering :=
  let x := k.part separator a
  let y := k.part separator b
  let order : Ordering :=
    if k.comparison.numeric then Ord.compare (leadingNumber x) (leadingNumber y)
    else if k.comparison.folds then Ord.compare (folded x) (folded y)
    else Ord.compare x y
  if k.comparison.reverse then order.swap else order

end SortKey

/-- The first difference that keys show. -/
def compareKeys (separator : Option UInt8) (ks : List SortKey) (a b : Octets) : Ordering :=
  ks.foldl (fun (o : Ordering) k => o.then (k.compare separator a b)) .eq

/-- Puts lines in order. -/
def sort (i : Invocation) (o : Options) : Reply :=
  let own := Comparison.ofLetters (o.flags.map (·.1))
  let words := (o.flags.filter (·.1 == 'k')).map (·.2)
  match words.find? fun w => (SortKey.ofChars? own w).isNone with
  | some w => .failure i 2 s!"{i.self}: invalid number at field start: invalid count at start of {quoted w}"
  | none =>
    let found := gather i o.operands fun n e => s!"{i.self}: cannot read: {named n}: {reason e}"
    if !found.all (·.isOk) then
      { Reply.outcome i 2 with writings := (messages found).take 1 }
    else
      let finish : UInt8 := if o.has 'z' then 0 else 10
      let octets := (joined found).octets
      let ls : List Octets :=
        if o.has 'z' then
          let parts := octets.splitOn 0
          if parts.getLast? == some [] then parts.dropLast else parts
        else (lineOctets octets).map lineText
      let separator := ((o.value? 't').bind List.head?).map fun c => c.toNat.toUInt8
      let keys := words.filterMap (SortKey.ofChars? own)
      let compare (a b : Octets) : Ordering :=
        compareKeys separator (if keys.isEmpty then [.whole own] else keys) a b
      let last (a b : Octets) : Ordering :=
        if o.has 's' || o.has 'u' then .eq
        else if own.reverse then (Ord.compare a b).swap
        else Ord.compare a b
      let upTo (a b : Octets) : Bool := ((compare a b).then (last a b)).isLE
      if o.has 'c' || o.has 'C' then
        let isWrong (p : Octets × Octets) : Bool :=
          if o.has 'u' then (compare p.1 p.2).isGE else !upTo p.1 p.2
        match ((ls.zip ls.tail).zipIdx.find? fun p => isWrong p.1) with
        | none => .outcome i 0
        | some ((_, b), n) =>
          let name := if (orInput o.operands).any isInput then ['-'] else o.operands.headD ['-']
          let place := s!"{toName name}:{Nat.repr (n + 2)}: disorder: {toName (ofOctets b)}"
          if o.has 'C' then .outcome i 1 else .failure i 1 s!"{i.self}: {place}"
      else
        let sorted := ls.mergeSort upTo
        let kept := if o.has 'u' then
            (sorted.foldl (fun (ks : List Octets) l =>
              match ks with
              | k :: _ => if (compare k l).isEq then ks else l :: ks
              | [] => [l]) []).reverse
          else sorted
        let text := (kept.map (· ++ [finish])).flatten
        match o.value? 'o' with
        | some path =>
          match i.files.locate true (toName path) with
          | .ok spot =>
            { Reply.outcome i 0 with files := i.files.put spot.place (.file text false) }
          | .error e => .failure i 2 s!"{i.self}: open failed: {named path}: {reason e}"
        | none => .supply i (.ofOctets text)

/-- The options of `sort`. -/
def sortGrammar : Grammar :=
  ⟨"nrufbdszcC", "kto", [("numeric-sort", 'n'), ("reverse", 'r'), ("unique", 'u'), ("key", 'k'),
    ("field-separator", 't'), ("output", 'o'), ("stable", 's'), ("ignore-case", 'f'),
    ("ignore-leading-blanks", 'b'), ("zero-terminated", 'z'), ("check", 'c')]⟩

/-- Lines that follow each other and are the same, with their number. -/
def groups (same : Octets → Octets → Bool) (ls : List Octets) : List (Octets × Nat) :=
  (ls.foldl (fun (gs : List (Octets × Nat)) l =>
    match gs with
    | (k, n) :: rest => if same k l then (k, n + 1) :: rest else (l, 1) :: gs
    | [] => [(l, 1)]) []).reverse

/-- Writes lines that follow each other and are the same only once. -/
def uniq (i : Invocation) (o : Options) : Reply :=
  let found := gather i (o.operands.take 1) (plainMessage i)
  let same (a b : Octets) : Bool :=
    if o.has 'i' then SortKey.folded a == SortKey.folded b else a == b
  let gs := groups same ((lineOctets (joined found).octets).map lineText)
  let gs := gs.filter fun g => (!o.has 'd' || 1 < g.2) && (!o.has 'u' || g.2 = 1)
  let line (g : Octets × Nat) : Octets :=
    let ds := ofNumber g.2
    let front := if o.has 'c' then List.replicate (7 - ds.length) ' ' ++ ds ++ [' '] else []
    toOctets front ++ g.1 ++ [10]
  { Reply.outcome i (readingStatus found) with
    writings := messages found ++ [(1, .ofOctets (gs.map line).flatten)] }

/-- The options of `uniq`. -/
def uniqGrammar : Grammar :=
  ⟨"cdui", "", [("count", 'c'), ("repeated", 'd'), ("unique", 'u'), ("ignore-case", 'i')]⟩

end Streamkeeper.StandIn.Shell.Tool
