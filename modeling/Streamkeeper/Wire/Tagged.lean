import Streamkeeper.Wire.Shape

/-!
Reading tagged records.

A tagged record is an object with the tag in a member of its own, or an array with the tag in front.
The text is read once from front to back: the tag is checked where it stands, all else is kept as
values.  Mistakes in the tag have a place in the text; mistakes in the kept values have none, because
they are found after the text has been read.
-/

namespace Streamkeeper.Wire

open Json (Mismatch Fault ReadError faultHere faultAtNext)

/-- What a tagged record holds beside its tag. -/
inductive Content where
  | members (ms : List (String × Json))
  | elements (xs : List Json)
deriving Repr

/-- The member that holds the tag. -/
def tagKey : String := "type"

/-- What is expected of a tag. -/
def tagExpected : String := "variant identifier"

/-- The fault of a value that is not of the expected type.  A scalar is read first, so that the
report names it and a flaw in it comes before the type; brackets are not entered. -/
def typeFault (expected : String) (cs : List Char) : Fault :=
  let mismatch (f : Json.Found) (rest : List Char) : Fault :=
    faultHere (.mismatch (.invalidType f expected)) rest
  match Json.skip cs with
  | [] => faultHere .endInValue []
  | c :: rest =>
    if c = '[' then mismatch .sequence (c :: rest)
    else if c = '\x7b' then mismatch .map (c :: rest)
    else
      match Json.valueWith none (c :: rest) with
      | .ok (v, rest) => mismatch v.found rest
      | .error f => f

/-- A name in a text. -/
def nameIn {τ : Type} (ofName : String → Except Mismatch τ) (cs : List Char) :
    Except Fault (τ × List Char) :=
  match Json.skip cs with
  | [] => .error (faultHere .endInValue [])
  | c :: rest =>
    if c = '"' then do
      let (s, rest) ← Json.stringRest rest
      match ofName s with
      | .ok t => .ok (t, rest)
      | .error m => .error (faultHere (.mismatch m) rest)
    else .error (typeFault tagExpected (c :: rest))

/-- The place of a mistake that ends the reading of an object: after the closing bracket if that
comes next. -/
def closing (cs : List Char) : List Char :=
  match Json.skip cs with
  | [] => []
  | c :: rest => if c = '\x7d' then rest else c :: rest

/-- Takes a member of a tagged object: the tag, or one of the members kept, last first. -/
def taggedMember {τ : Type} (ofName : String → Except Mismatch τ)
    (read : List Char → Except Fault (Json × List Char))
    (sofar : Option τ × List (String × Json)) (key : String) (cs : List Char) :
    Except Fault ((Option τ × List (String × Json)) × List Char) :=
  if key = tagKey then
    match sofar.1 with
    | some _ => .error (faultHere (.mismatch (.duplicateField tagKey)) (closing cs))
    | none => do
      let rest ← Json.colon cs
      let (t, rest) ← nameIn ofName rest
      .ok ((some t, sofar.2), rest)
  else do
    let rest ← Json.colon cs
    let (v, rest) ← read rest
    .ok ((sofar.1, (key, v) :: sofar.2), rest)

/-- The fault of a record without a tag. -/
def untagged (rest : List Char) : Fault :=
  faultHere (.mismatch (.missingField tagKey)) rest

/-- A tagged record at the front of a text; `record` is its name in reports. -/
def tagged {τ : Type} (record : String) (ofName : String → Except Mismatch τ) (cs : List Char) :
    Except Fault ((τ × Content) × List Char) :=
  let read := Json.value (Json.depthLimit - 1)
  match Json.skip cs with
  | [] => .error (faultHere .endInValue [])
  | c :: rest =>
    if c = '\x7b' then do
      let ((t, ms), rest) ← Json.members (taggedMember ofName read) (rest.length + 1) true
        (none, []) rest
      match t with
      | some t => .ok ((t, .members ms.reverse), rest)
      | none => .error (untagged rest)
    else if c = '[' then
      match Json.skip rest with
      | [] => .error (faultHere .endInArray [])
      | d :: rest =>
        if d = ']' then .error (untagged rest)
        else do
          let (t, rest) ← nameIn ofName (d :: rest)
          let (xs, rest) ← Json.elements read (rest.length + 1) false rest
          .ok ((t, .elements xs), rest)
    else .error (typeFault record (c :: rest))

/-- Reads a tagged record and gives its content a meaning.  Mistakes in the content come before
anything that follows the record. -/
def readTagged {τ α : Type} (record : String) (ofName : String → Except Mismatch τ)
    (meaning : τ → Content → Except Mismatch α) (text : String) : Except ReadError α :=
  let cs := text.toList
  match tagged record ofName cs with
  | .error f => .error (f.inText cs)
  | .ok ((t, content), rest) =>
    match meaning t content with
    | .error m => .error (.ofMismatch m)
    | .ok x =>
      match Json.finish rest with
      | .error f => .error (f.inText cs)
      | .ok () => .ok x

/-- The tag and the content of a record that was read as a value; its members stand in their
canonical order. -/
def taggedValue {τ : Type} (record : String) (ofName : String → Except Mismatch τ) (v : Json) :
    Except Mismatch (τ × Content) :=
  let name (v : Json) : Except Mismatch τ :=
    match v with
    | .string s => ofName s
    | v => .error (.invalidType v.found tagExpected)
  match v with
  | .object ms =>
    match member? tagKey ms with
    | none => .error (.missingField tagKey)
    | some v => do
      let t ← name v
      .ok (t, .members (ms.filter fun m => m.1 != tagKey))
  | .array [] => .error (.missingField tagKey)
  | .array (x :: xs) => do
    let t ← name x
    .ok (t, .elements xs)
  | v => .error (.invalidType v.found record)

end Streamkeeper.Wire
