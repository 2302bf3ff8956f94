import Streamkeeper.Proofs.Json.Bounds

/-!
# JSON rounds — where a loop goes does not depend on what it keeps

A round of the loop over the members of an object comes to the closing brace or to a key
(`nextEntry`), whatever the loop makes of the members, so that two loops over one text that keep
different things go through the same rounds (`members_succ`).  The loop over the elements of an
array is split the same way (`elements_succ`).  `begins_of_valueWith` says of what is read as a
value which character it begins with.
-/

namespace Streamkeeper.Json

/-! ### Rounds over members -/

/-- What stands next in an object: its end, or a key; `rest` is what follows. -/
inductive Entry where
  | close (rest : List Char)
  | key (name : String) (rest : List Char)

/-- What follows an entry. -/
def Entry.rest : Entry → List Char
  | .close rest => rest
  | .key _ rest => rest

/-- The key of an entry that begins with `c`. -/
def keyAt (c : Char) (rest : List Char) : Except Fault Entry :=
  if c = '"' then do
    let (name, rest) ← stringRest rest
    .ok (.key name rest)
  else .error (faultAtNext .keyNotString (c :: rest))

/-- What stands next in an object, after a comma unless it is the first. -/
def nextEntry (isFirst : Bool) (cs : List Char) : Except Fault Entry :=
  match skip cs with
  | [] => .error (faultHere .endInObject [])
  | c :: rest =>
    if c = '\x7d' then .ok (.close rest)
    else if isFirst then keyAt c rest
    else if c = ',' then
      match skip rest with
      | [] => .error (faultHere .endInValue [])
      | d :: rest =>
        if d = '\x7d' then .error (faultAtNext .trailingComma (d :: rest)) else keyAt d rest
    else .error (faultAtNext .expectedCommaOrBrace (c :: rest))

/-- A round over members: the entry that stands next, then what `member` takes of it. -/
theorem members_succ {σ : Type} (member : σ → String → List Char → Except Fault (σ × List Char))
    (fuel : Nat) (isFirst : Bool) (s : σ) (cs : List Char) :
    members member (fuel + 1) isFirst s cs = nextEntry isFirst cs >>= fun
      | .close rest => .ok (s, rest)
      | .key name rest => member s name rest >>= fun p => members member fuel false p.1 p.2 := by
  have keyed : ∀ (c : Char) (rest : List Char), (if c = '"' then
        stringRest rest >>= fun p => member s p.1 p.2 >>= fun q => members member fuel false q.1 q.2
      else .error (faultAtNext .keyNotString (c :: rest))) = keyAt c rest >>= fun
      | .close rest => .ok (s, rest)
      | .key name rest => member s name rest >>= fun p => members member fuel false p.1 p.2 := by
    intro c rest
    simp only [keyAt]
    split
    · cases stringRest rest <;> rfl
    · rfl
  rw [members, nextEntry]
  rcases skip cs with _ | ⟨c, rest⟩
  · rfl
  simp only
  split
  · rfl
  split
  · exact keyed _ _
  split
  · rcases skip rest with _ | ⟨d, rest⟩
    · rfl
    simp only
    split
    · rfl
    · exact keyed _ _
  · rfl

/-! ### Rounds over elements -/

/-- What stands next in an array: its end and what follows, or an element. -/
inductive Item where
  | close (rest : List Char)
  | element (cs : List Char)

/-- What is left at an item. -/
def Item.rest : Item → List Char
  | .close rest => rest
  | .element cs => cs

/-- What stands next in an array, after a comma unless it is the first. -/
def nextItem (isFirst : Bool) (cs : List Char) : Except Fault Item :=
  match skip cs with
  | [] => .error (faultHere .endInArray [])
  | c :: rest =>
    if c = ']' then .ok (.close rest)
    else if isFirst then .ok (.element (c :: rest))
    else if c = ',' then
      match skip rest with
      | [] => .error (faultHere .endInValue [])
      | d :: rest =>
        if d = ']' then .error (faultAtNext .trailingComma (d :: rest))
        else .ok (.element (d :: rest))
    else .error (faultAtNext .expectedCommaOrBracket (c :: rest))

/-- A round over elements: the item that stands next, then what `read` takes of it. -/
theorem elements_succ (read : List Char → Except Fault (Json × List Char)) (fuel : Nat)
    (isFirst : Bool) (cs : List Char) :
    elements read (fuel + 1) isFirst cs = nextItem isFirst cs >>= fun
      | .close rest => .ok ([], rest)
      | .element cs => read cs >>= fun p =>
        elements read fuel false p.2 >>= fun q => .ok (p.1 :: q.1, q.2) := by
  rw [elements, nextItem]
  rcases skip cs with _ | ⟨c, rest⟩
  · rfl
  simp only
  split
  · rfl
  split
  · rfl
  split
  · rcases skip rest with _ | ⟨d, rest⟩
    · rfl
    simp only
    split <;> rfl
  · rfl

/-! ### Values by their first character -/

/-- A value that is no text and holds no values. -/
def Atom : Json → Prop
  | .null | .bool _ | .number _ => True
  | _ => False

/-- A value that begins with a character, and the text after it. -/
inductive Begins (nested : Option (List Char → Except Fault (Json × List Char))) :
    Char → List Char → Json → List Char → Prop
  | string {cs rest : List Char} {s : String} (h : stringRest cs = .ok (s, rest)) :
      Begins nested '"' cs (.string s) rest
  | array {read : List Char → Except Fault (Json × List Char)} {cs rest : List Char}
      {xs : List Json} (hread : nested = some read)
      (h : elements read (cs.length + 1) true cs = .ok (xs, rest)) :
      Begins nested '[' cs (.array xs) rest
  | object {read : List Char → Except Fault (Json × List Char)} {cs rest : List Char}
      {ms : List (String × Json)} (hread : nested = some read)
      (h : members (plainMember read) (cs.length + 1) true [] cs = .ok (ms, rest)) :
      Begins nested '\x7b' cs (.object ms.reverse) rest
  | atom {c : Char} {cs rest : List Char} {v : Json} (hquote : c ≠ '"') (hbracket : c ≠ '[')
      (hbrace : c ≠ '\x7b') (hv : v.Atom) : Begins nested c cs v rest

/-- What a value is shows in its first character. -/
theorem begins_of_valueWith {nested : Option (List Char → Except Fault (Json × List Char))}
    {cs rest : List Char} {v : Json} (h : valueWith nested cs = .ok (v, rest)) :
    ∃ c cs', skip cs = c :: cs' ∧ Begins nested c cs' v rest := by
  unfold valueWith at h
  split at h
  · cases h
  next c cs' hc =>
    refine ⟨c, cs', hc, ?_⟩
    split_ifs at h with hn ht hf hq hm hd ha ho
    · subst hn
      exact .atom (by decide) (by decide) (by decide) (ident_value h ▸ trivial)
    · subst ht
      exact .atom (by decide) (by decide) (by decide) (ident_value h ▸ trivial)
    · subst hf
      exact .atom (by decide) (by decide) (by decide) (ident_value h ▸ trivial)
    · subst hq
      obtain ⟨⟨s, rest'⟩, hs, h⟩ := Except.bind_eq_ok h
      cases h
      exact .string hs
    · subst hm
      obtain ⟨⟨n, rest'⟩, -, h⟩ := Except.bind_eq_ok h
      cases h
      exact .atom (by decide) (by decide) (by decide) trivial
    · obtain ⟨⟨n, rest'⟩, -, h⟩ := Except.bind_eq_ok h
      cases h
      refine .atom hq ?_ ?_ trivial
      · rintro rfl
        exact absurd hd (by decide)
      · rintro rfl
        exact absurd hd (by decide)
    · subst ha
      split at h
      · cases h
      · obtain ⟨⟨xs, rest'⟩, hxs, h⟩ := Except.bind_eq_ok h
        cases h
        exact .array rfl hxs
    · subst ho
      split at h
      · cases h
      · obtain ⟨⟨ms, rest'⟩, hms, h⟩ := Except.bind_eq_ok h
        cases h
        exact .object rfl hms

end Streamkeeper.Json
