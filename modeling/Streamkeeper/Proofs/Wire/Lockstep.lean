import Streamkeeper.Proofs.Json.Depth
import Streamkeeper.Proofs.Json.Lengths
import Streamkeeper.Proofs.Json.Members
import Streamkeeper.Proofs.Json.Reading
import Streamkeeper.Wire.Tagged

/-!
# Tagged records — the text and its value say the same

A tagged record is read from its text without a value in between: the loop over its members keeps
the tag apart and reads it as a name.  On a text that is a value this loop and the plain one go from
member to member together (`members_lockstep`), and what it keeps is what the value has
(`foldlM_takeMember`, `tagged_of_value`).

`readTagged_of_read?` is the result: to know what a text denotes it is enough to look at its value.
-/

namespace Streamkeeper

theorem Except.toOption_bind {ε α β : Type} (x : Except ε α) (f : α → Except ε β) :
    (x >>= f).toOption = x.toOption.bind fun a => (f a).toOption := by
  cases x <;> rfl

theorem Except.toOption_map {ε α β : Type} (x : Except ε α) (f : α → β) :
    (x.map f).toOption = x.toOption.map f := by
  cases x <;> rfl

/-- A text that is read as a value has the value in front and nothing after it. -/
theorem Json.value_of_read? {text : String} {v : Json} (h : read? text = .ok v) :
    ∃ rest, value depthLimit text.toList = .ok (v, rest) ∧ finish rest = .ok () :=
  readWithin_eq_ok_iff.mp h

namespace Wire

open Json (Fault Mismatch ReadError Shortens)

variable {τ : Type} (ofName : String → Except Mismatch τ)

/-! ### The tag -/

/-- The tag that a value is. -/
def tagOf : Json → Option τ
  | .string s => (ofName s).toOption
  | _ => none

/-- Where a value stands its tag is read, if it is one, and the same follows. -/
theorem nameIn_of_valueWith {nested : Option (List Char → Except Fault (Json × List Char))}
    {cs rest : List Char} {v : Json} (h : Json.valueWith nested cs = .ok (v, rest)) :
    (nameIn ofName cs).toOption = (tagOf ofName v).map fun t => (t, rest) := by
  obtain ⟨c, cs', hc, hb⟩ := Json.begins_of_valueWith h
  rw [nameIn, hc]
  cases hb with
  | @string _ _ s hs =>
      simp only [if_true, bind, Except.bind, hs, tagOf]
      cases ofName s <;> rfl
  | array => rfl
  | object => rfl
  | atom hq _ _ hv =>
      have hnone : tagOf ofName v = none := by
        cases v <;> first | rfl | cases hv
      simp only [if_neg hq, hnone]
      rfl

/-! ### Members -/

/-- Takes a member that was read: the tag, or one that is kept. -/
def takeMember (s : Option τ × List (String × Json)) (m : String × Json) :
    Option (Option τ × List (String × Json)) :=
  if m.1 = tagKey then
    match s.1 with
    | some _ => none
    | none => (tagOf ofName m.2).map fun t => (some t, s.2)
  else some (s.1, m :: s.2)

section Members

variable {read : List Char → Except Fault (Json × List Char)}

theorem taggedMember_of_plainMember {nested : Option (List Char → Except Fault (Json × List Char))}
    (hread : read = Json.valueWith nested) {sofar sofar' : List (String × Json)} {key : String}
    {cs rest : List Char} (h : Json.plainMember read sofar key cs = .ok (sofar', rest)) :
    ∃ v, sofar' = (key, v) :: sofar ∧ ∀ s : Option τ × List (String × Json),
      (taggedMember ofName read s key cs).toOption =
        (takeMember ofName s (key, v)).map fun s => (s, rest) := by
  obtain ⟨cs₁, h₁, h⟩ := Except.bind_eq_ok h
  obtain ⟨⟨v, rest₁⟩, h₂, h⟩ := Except.bind_eq_ok h
  cases h
  refine ⟨v, rfl, fun s => ?_⟩
  rw [taggedMember, takeMember]
  by_cases hk : key = tagKey
  · rw [if_pos hk, if_pos hk]
    rcases s.1 with _ | t
    · simp only [bind, Except.bind, h₁]
      refine (Except.toOption_bind (nameIn ofName cs₁) _).trans ?_
      rw [nameIn_of_valueWith ofName (hread ▸ h₂)]
      cases tagOf ofName v <;> rfl
    · rfl
  · rw [if_neg hk, if_neg hk]
    simp only [bind, Except.bind, h₁, h₂]
    rfl

/-- The loops over plain and over tagged members go through the same text. -/
theorem members_lockstep {nested : Option (List Char → Except Fault (Json × List Char))}
    (hread : read = Json.valueWith nested) {fuel : Nat} {isFirst : Bool}
    {sofar sofar' : List (String × Json)} {cs rest : List Char}
    (h : Json.members (Json.plainMember read) fuel isFirst sofar cs = .ok (sofar', rest)) :
    ∃ ms : List (String × Json), sofar' = ms.reverse ++ sofar ∧
      ∀ s : Option τ × List (String × Json),
      (Json.members (taggedMember ofName read) fuel isFirst s cs).toOption =
        (ms.foldlM (takeMember ofName) s).map fun s => (s, rest) := by
  induction fuel generalizing isFirst sofar cs with
  | zero => cases h
  | succ fuel ih =>
      rw [Json.members_succ] at h
      obtain ⟨e, he, h⟩ := Except.bind_eq_ok h
      cases e with
      | close rest' =>
          cases h
          refine ⟨[], rfl, fun s => ?_⟩
          rw [Json.members_succ, he]
          rfl
      | key name cs₁ =>
          obtain ⟨⟨sofar₁, rest₁⟩, h₁, h⟩ := Except.bind_eq_ok h
          obtain ⟨v, rfl, hv⟩ := taggedMember_of_plainMember ofName hread h₁
          obtain ⟨ms, rfl, hms⟩ := ih h
          refine ⟨(name, v) :: ms, by simp, fun s => ?_⟩
          have hround : Json.members (taggedMember ofName read) (fuel + 1) isFirst s cs =
              taggedMember ofName read s name cs₁ >>= fun p =>
                Json.members (taggedMember ofName read) fuel false p.1 p.2 := by
            rw [Json.members_succ, he]
            rfl
          rw [hround, Except.toOption_bind, hv, List.foldlM_cons]
          cases takeMember ofName s (name, v) with
          | none => rfl
          | some s' => exact hms s'

end Members

/-- Members after the tag are all kept, if none of them is a tag. -/
theorem foldlM_takeMember_of_ne {ms : List (String × Json)} (h : ∀ m ∈ ms, m.1 ≠ tagKey)
    (t : Option τ) (kept : List (String × Json)) :
    ms.foldlM (takeMember ofName) (t, kept) = some (t, ms.reverse ++ kept) := by
  induction ms generalizing kept with
  | nil => rfl
  | cons m ms ih =>
      obtain ⟨hm, hms⟩ := List.forall_mem_cons.mp h
      have htake : takeMember ofName (t, kept) m = some (t, m :: kept) := if_neg hm
      rw [List.foldlM_cons, htake, Option.bind_eq_bind, Option.bind_some, ih hms,
        List.reverse_cons, List.append_assoc]
      rfl

/-- Of members with distinct names one is the tag, wherever it stands, and the others are kept. -/
theorem foldlM_takeMember {ms : List (String × Json)} (h : (Table.keys ms).Nodup)
    (kept : List (String × Json)) :
    ms.foldlM (takeMember ofName) (none, kept) =
      match Table.get? ms tagKey with
      | none => some (none, ms.reverse ++ kept)
      | some v => (tagOf ofName v).map fun t =>
        (some t, (ms.filter fun m => m.1 != tagKey).reverse ++ kept) := by
  induction ms generalizing kept with
  | nil => rfl
  | cons m ms ih =>
      obtain ⟨name, v⟩ := m
      obtain ⟨hn, hms⟩ := List.nodup_cons.mp h
      rw [List.foldlM_cons, Table.get?_cons]
      by_cases hk : name = tagKey
      · subst hk
        have hne : ∀ m ∈ ms, m.1 ≠ tagKey := fun m hm heq => by
          have hkey : m.1 ∈ Table.keys ms := List.mem_map_of_mem hm
          exact hn (heq ▸ hkey)
        have hfilter : ms.filter (fun m => m.1 != tagKey) = ms :=
          List.filter_eq_self.mpr fun m hm => bne_iff_ne.mpr (hne m hm)
        have htake : takeMember ofName (none, kept) (tagKey, v) =
            (tagOf ofName v).map fun t => (some t, kept) := if_pos rfl
        rw [htake, if_pos rfl, List.filter_cons_of_neg (by simp), hfilter]
        simp only
        cases tagOf ofName v with
        | none => rfl
        | some t => exact foldlM_takeMember_of_ne ofName hne (some t) kept
      · have htake : takeMember ofName (none, kept) (name, v) = some (none, (name, v) :: kept) :=
          if_neg hk
        rw [htake, if_neg hk, List.filter_cons_of_pos (by simpa using hk), Option.bind_eq_bind,
          Option.bind_some, ih hms, List.reverse_cons, List.reverse_cons, List.append_assoc,
          List.append_assoc]
        rfl

/-! ### Records -/

theorem member?_eq_get? (name : String) (ms : List (String × Json)) :
    member? name ms = Table.get? ms name := by
  induction ms with
  | nil => rfl
  | cons m ms ih =>
      obtain ⟨k, v⟩ := m
      rw [member?, Table.get?_cons, ih]

/-- What is kept of a value that is a tagged record. -/
def contentOf : Json → Option (τ × Content)
  | .object ms => (Table.get? ms tagKey).bind fun v => (tagOf ofName v).map fun t =>
      (t, .members (ms.filter fun m => m.1 != tagKey))
  | .array (x :: xs) => (tagOf ofName x).map fun t => (t, .elements xs)
  | _ => none

theorem taggedValue_toOption (record : String) (v : Json) :
    (taggedValue record ofName v).toOption = contentOf ofName v := by
  cases v with
  | object ms =>
      rw [taggedValue, contentOf, member?_eq_get?]
      cases Table.get? ms tagKey with
      | none => rfl
      | some v =>
          refine (Except.toOption_bind _ _).trans ?_
          cases v with
          | string s => simp only [tagOf, Option.bind_some]; cases ofName s <;> rfl
          | _ => rfl
  | array xs =>
      cases xs with
      | nil => rfl
      | cons x xs =>
          refine (Except.toOption_bind _ _).trans ?_
          cases x with
          | string s => simp only [contentOf, tagOf]; cases ofName s <;> rfl
          | _ => rfl
  | _ => rfl

/-- The names of the members of a value are distinct. -/
def DistinctNames : Json → Prop
  | .object ms => (Table.keys ms).Nodup
  | _ => True

/-- A record in the form of an object is read as its members are, if their names are distinct. -/
theorem tagged_of_members (record : String) {cs cs' rest : List Char}
    (hc : Json.skip cs = '\x7b' :: cs') {sofar : List (String × Json)}
    (h : Json.members (Json.plainMember (Json.value (Json.depthLimit - 1))) (cs'.length + 1) true []
      cs' = .ok (sofar, rest)) (hd : (Table.keys sofar.reverse).Nodup) :
    (tagged record ofName cs).toOption =
      (contentOf ofName (.object sofar.reverse)).map fun c => (c, rest) := by
  obtain ⟨nested, hnested⟩ := Json.value_eq (Json.depthLimit - 1)
  obtain ⟨ms, rfl, hms⟩ := members_lockstep ofName hnested h
  simp only [List.append_nil, List.reverse_reverse] at hd ⊢
  rw [tagged, hc]
  simp only [if_true]
  rw [Except.toOption_bind, hms, foldlM_takeMember ofName hd, contentOf]
  cases Table.get? ms tagKey with
  | none => rfl
  | some v =>
      simp only [Option.bind_some]
      cases tagOf ofName v with
      | none => rfl
      | some t => simp [Except.toOption]

/-- A record in the form of an array is read as its elements are. -/
theorem tagged_of_elements (record : String) {cs cs' rest : List Char}
    (hc : Json.skip cs = '[' :: cs') {xs : List Json}
    (h : Json.elements (Json.value (Json.depthLimit - 1)) (cs'.length + 1) true cs' =
      .ok (xs, rest)) :
    (tagged record ofName cs).toOption =
      (contentOf ofName (.array xs)).map fun c => (c, rest) := by
  obtain ⟨nested, hnested⟩ := Json.value_eq (Json.depthLimit - 1)
  rw [Json.elements_succ] at h
  obtain ⟨i, hi, h⟩ := Except.bind_eq_ok h
  unfold Json.nextItem at hi
  rw [tagged, hc]
  simp only [if_neg (show '[' ≠ '\x7b' by decide), if_true]
  rcases hskip : Json.skip cs' with _ | ⟨d, cs₁⟩ <;> rw [hskip] at hi
  · cases hi
  simp only [if_true] at hi ⊢
  by_cases hclose : d = ']'
  · rw [if_pos hclose] at hi
    cases hi
    cases h
    rw [if_pos hclose]
    rfl
  · rw [if_neg hclose] at hi
    cases hi
    obtain ⟨⟨x, rest₁⟩, hx, h⟩ := Except.bind_eq_ok h
    obtain ⟨⟨xs', rest₂⟩, hxs, h⟩ := Except.bind_eq_ok h
    cases h
    -- the rounds are counted anew after the tag, and there are fewer elements left than characters
    have hlen := Json.length_elements (Json.shortens_value (Json.depthLimit - 1)) hxs
    have hrest := Json.elements_of_rounds hxs (show xs'.length < rest₁.length + 1 by
      simp only at hlen
      omega)
    rw [if_neg hclose, Except.toOption_bind, nameIn_of_valueWith ofName (hnested ▸ hx), contentOf]
    cases tagOf ofName x with
    | none => rfl
    | some t =>
        simp only [Option.map_some, Option.bind_some, hrest, bind, Except.bind]
        rfl

/-- A record is read from a text as it is from the value there, and the same follows. -/
theorem tagged_of_value (record : String) {cs rest : List Char} {v : Json}
    (h : Json.value Json.depthLimit cs = .ok (v, rest)) (hd : DistinctNames v) :
    (tagged record ofName cs).toOption = (contentOf ofName v).map fun c => (c, rest) := by
  have h' : Json.valueWith (some (Json.value (Json.depthLimit - 1))) cs = .ok (v, rest) := h
  obtain ⟨c, cs', hc, hb⟩ := Json.begins_of_valueWith h'
  cases hb with
  | string =>
      rw [tagged, hc]
      rfl
  | atom _ hbracket hbrace hv =>
      have hnone : contentOf ofName v = none := by
        cases v <;> first | rfl | cases hv
      rw [tagged, hc]
      simp only [if_neg hbracket, if_neg hbrace, hnone]
      rfl
  | object hread h =>
      cases hread
      exact tagged_of_members ofName record hc h hd
  | array hread h =>
      cases hread
      exact tagged_of_elements ofName record hc h

/-- **What a text denotes as a tagged record, its value denotes.**  The members may stand in any
order, before and after the tag, as long as their names are distinct. -/
theorem readTagged_of_read? {α : Type} (record : String)
    (meaning : τ → Content → Except Mismatch α) {text : String} {v : Json}
    (h : Json.read? text = .ok v) (hd : DistinctNames v) :
    (readTagged record ofName meaning text).toOption =
      (taggedValue record ofName v).toOption.bind fun c => (meaning c.1 c.2).toOption := by
  obtain ⟨rest, hv, hfinish⟩ := Json.value_of_read? h
  have htagged := tagged_of_value ofName record hv hd
  rw [taggedValue_toOption, readTagged]
  rcases ht : tagged record ofName text.toList with f | ⟨⟨t, content⟩, rest'⟩ <;>
    rcases hc : contentOf ofName v with _ | c <;> rw [ht, hc] at htagged <;> cases htagged
  · rfl
  · simp only [Option.bind_some]
    rcases meaning t content with m | x
    · rfl
    · simp only [hfinish]
      rfl

end Wire

end Streamkeeper
