import Mathlib.Tactic.SplitIfs
import Streamkeeper.Json.Reader
import Streamkeeper.Proofs.Json.Value

/-!
# JSON bounds — what reading gives

`Readable depth v`: at most `depth` brackets of `v` are open at a time, and its integers fit 64
bits.  Every value that the reader of a depth gives is readable at that depth (`readable_of_value`).
The loops keep whatever one round keeps (`forall_mem_elements`, `members_keep`), so other readers of
entries get their bounds from the same two lemmas.
-/

namespace Streamkeeper

theorem Except.bind_eq_ok {ε α β : Type} {x : Except ε α} {f : α → Except ε β} {b : β}
    (h : (x >>= f) = .ok b) : ∃ a, x = .ok a ∧ f a = .ok b := by
  cases x with
  | error _ => cases h
  | ok a => exact ⟨a, rfl, h⟩

/-- A number that reading can give: an integer of 64 bits, or any double. -/
def Number.InRange : Number → Prop
  | .int n => (Number.int n).IsWord
  | .real _ => True

theorem Number.InRange.isWord {n : Number} (h : n.InRange) (hi : n.IsInteger) : n.IsWord := by
  cases n with
  | int n => exact h
  | real => exact hi.elim

namespace Json

/-- A value that reading at a depth can give. -/
structure Readable (depth : Nat) (v : Json) : Prop where
  within : v.Within depth
  numbers : v.AllNumbers Number.InRange

/-! ### Numbers -/

theorem inRange_realNumber {negative : Bool} {significand : Nat} {exponent : Int} {n : Number}
    {cs rest : List Char} (h : realNumber negative significand exponent cs = .ok (n, rest)) :
    n.InRange := by
  unfold realNumber at h
  split at h
  · rename_i hn
    obtain ⟨f, -, rfl⟩ := Option.map_eq_some_iff.mp hn
    cases h
    trivial
  · cases h

theorem inRange_exponentPart {negative : Bool} {significand : Nat} {exponent : Int} {n : Number}
    {cs rest : List Char} (h : exponentPart negative significand exponent cs = .ok (n, rest)) :
    n.InRange := by
  unfold exponentPart at h
  simp only at h
  -- the digits are read in one way after any sign
  split at h
  all_goals
    split at h
    · split at h <;> cases h
    · split at h
      · exact inRange_realNumber h
      · split at h
        · cases h
        · cases h
          trivial

theorem inRange_afterDigits {negative : Bool} {significand : Nat} {exponent : Int} {n : Number}
    {cs rest : List Char} (h : afterDigits negative significand exponent cs = .ok (n, rest)) :
    n.InRange := by
  unfold afterDigits at h
  split at h
  · exact inRange_exponentPart h
  · exact inRange_exponentPart h
  · exact inRange_realNumber h

theorem inRange_fractionPart {negative : Bool} {significand : Nat} {exponent : Int} {n : Number}
    {cs rest : List Char} (h : fractionPart negative significand exponent cs = .ok (n, rest)) :
    n.InRange := by
  unfold fractionPart at h
  simp only at h
  split at h
  · split at h <;> cases h
  · exact inRange_afterDigits h

theorem absorb_lt {significand : Nat} (h : significand < significandLimit) (ds : List Char) :
    (absorb significand ds).1 < significandLimit := by
  induction ds generalizing significand with
  | nil => exact h
  | cons d ds ih =>
      simp only [absorb]
      split
      · exact ih ‹_›
      · exact h

theorem inRange_integer (negative : Bool) {n : Nat} (h : n < significandLimit) :
    (integer negative n).InRange := by
  have hlimit : significandLimit = 18446744073709551616 := by decide
  have hpow : Nat.pow 2 63 = 9223372036854775808 := by decide
  rw [hlimit] at h
  unfold integer
  rw [hpow]
  split_ifs with hneg hbig
  · exact Number.isWord_int_iff.mpr (by omega)
  · trivial
  · exact Number.isWord_int_iff.mpr (by omega)

theorem inRange_numberRest {negative : Bool} {n : Number} {cs rest : List Char}
    (h : numberRest negative cs = .ok (n, rest)) : n.InRange := by
  unfold numberRest at h
  simp only at h
  split at h
  · split at h <;> cases h
  · cases h
  · split at h
    · exact inRange_fractionPart h
    · split at h
      · cases h
        exact inRange_integer negative (absorb_lt (by decide) _)
      · exact inRange_afterDigits h

/-! ### Loops -/

section Elements

variable {read : List Char → Except Fault (Json × List Char)}

/-- What a round over elements does. -/
theorem elements_cases {fuel : Nat} {isFirst : Bool} {cs rest : List Char} {xs : List Json}
    (h : elements read (fuel + 1) isFirst cs = .ok (xs, rest)) :
    xs = [] ∨ ∃ cs' x rest' xs', read cs' = .ok (x, rest') ∧
      elements read fuel false rest' = .ok (xs', rest) ∧ xs = x :: xs' := by
  -- an element is read in two places: in front, and after a comma
  have element : ∀ {cs' : List Char}, (read cs' >>= fun p =>
      elements read fuel false p.2 >>= fun q => Except.ok (p.1 :: q.1, q.2)) = .ok (xs, rest) →
      ∃ cs' x rest' xs', read cs' = .ok (x, rest') ∧
        elements read fuel false rest' = .ok (xs', rest) ∧ xs = x :: xs' := by
    intro cs' h
    obtain ⟨⟨x, rest'⟩, hx, h⟩ := Except.bind_eq_ok h
    obtain ⟨⟨xs', rest''⟩, hxs, h⟩ := Except.bind_eq_ok h
    cases h
    exact ⟨cs', x, rest', xs', hx, hxs, rfl⟩
  simp only [elements] at h
  split at h
  · cases h
  · split at h
    · cases h
      exact Or.inl rfl
    · split at h
      · exact Or.inr (element h)
      · split at h
        · split at h
          · cases h
          · split at h
            · cases h
            · exact Or.inr (element h)
        · cases h

/-- What holds of every element that is read holds of all of them. -/
theorem forall_mem_elements {P : Json → Prop}
    (hread : ∀ cs x rest, read cs = .ok (x, rest) → P x) {fuel : Nat} {isFirst : Bool}
    {cs rest : List Char} {xs : List Json} (h : elements read fuel isFirst cs = .ok (xs, rest)) :
    ∀ x ∈ xs, P x := by
  induction fuel generalizing isFirst cs xs with
  | zero => cases h
  | succ fuel ih =>
      rcases elements_cases h with rfl | ⟨cs', x, rest', xs', hx, hxs, rfl⟩
      · exact fun _ h => absurd h List.not_mem_nil
      · exact List.forall_mem_cons.mpr ⟨hread _ _ _ hx, ih hxs⟩

end Elements

section Members

variable {σ : Type} {member : σ → String → List Char → Except Fault (σ × List Char)}

/-- What a round over members does. -/
theorem members_cases {fuel : Nat} {isFirst : Bool} {s s' : σ} {cs rest : List Char}
    (h : members member (fuel + 1) isFirst s cs = .ok (s', rest)) :
    s' = s ∨ ∃ key cs' s₁ rest', member s key cs' = .ok (s₁, rest') ∧
      members member fuel false s₁ rest' = .ok (s', rest) := by
  -- so is a key
  have keyed : ∀ {c : Char} {cs' : List Char}, (if c = '"' then
        stringRest cs' >>= fun p => member s p.1 p.2 >>= fun q => members member fuel false q.1 q.2
      else .error (faultAtNext .keyNotString (c :: cs'))) = Except.ok (s', rest) →
      ∃ key cs' s₁ rest', member s key cs' = .ok (s₁, rest') ∧
        members member fuel false s₁ rest' = .ok (s', rest) := by
    intro c cs' h
    split at h
    · obtain ⟨⟨key, cs''⟩, -, h⟩ := Except.bind_eq_ok h
      obtain ⟨⟨s₁, rest'⟩, hm, h⟩ := Except.bind_eq_ok h
      exact ⟨key, cs'', s₁, rest', hm, h⟩
    · cases h
  simp only [members] at h
  split at h
  · cases h
  · split at h
    · cases h
      exact Or.inl rfl
    · split at h
      · exact Or.inr (keyed h)
      · split at h
        · split at h
          · cases h
          · split at h
            · cases h
            · exact Or.inr (keyed h)
        · cases h

/-- The loop over members keeps what every `member` keeps. -/
theorem members_keep {P : σ → Prop}
    (hmember : ∀ s key cs s' rest, member s key cs = .ok (s', rest) → P s → P s') {fuel : Nat}
    {isFirst : Bool} {s s' : σ} {cs rest : List Char}
    (h : members member fuel isFirst s cs = .ok (s', rest)) (hs : P s) : P s' := by
  induction fuel generalizing isFirst s cs with
  | zero => cases h
  | succ fuel ih =>
      rcases members_cases h with rfl | ⟨key, cs', s₁, rest', hm, h⟩
      · exact hs
      · exact ih h (hmember _ _ _ _ _ hm hs)

end Members

/-! ### Values -/

theorem ident_value {word : List Char} {v w : Json} {cs rest : List Char}
    (h : ident word v cs = .ok (w, rest)) : w = v := by
  induction word generalizing cs with
  | nil =>
      cases h
      rfl
  | cons c word ih =>
      cases cs with
      | nil => cases h
      | cons d cs =>
          rw [ident] at h
          split at h
          · exact ih h
          · cases h

/-- What holds of every value that is read for a member holds of all values of plain members. -/
theorem plainMember_keep {read : List Char → Except Fault (Json × List Char)} {P : Json → Prop}
    (hread : ∀ cs x rest, read cs = .ok (x, rest) → P x) (sofar : List (String × Json))
    (key : String) (cs : List Char) (sofar' : List (String × Json)) (rest : List Char)
    (h : plainMember read sofar key cs = .ok (sofar', rest)) (hs : ∀ m ∈ sofar, P m.2) :
    ∀ m ∈ sofar', P m.2 := by
  obtain ⟨cs', -, h⟩ := Except.bind_eq_ok h
  obtain ⟨⟨v, rest'⟩, hv, h⟩ := Except.bind_eq_ok h
  cases h
  exact List.forall_mem_cons.mpr ⟨hread _ _ _ hv, hs⟩

/-- What a value can be that is read with a reader for the values inside it: a scalar, or what a
loop over elements or members has put together. -/
inductive ReadWith : Option (List Char → Except Fault (Json × List Char)) → Json → Prop where
  | null {nested} : ReadWith nested .null
  | bool {nested} (b : Bool) : ReadWith nested (.bool b)
  | string {nested} (s : String) : ReadWith nested (.string s)
  | number {nested} {n : Number} (h : n.InRange) : ReadWith nested (.number n)
  | array {read : List Char → Except Fault (Json × List Char)} {fuel : Nat} {xs : List Json}
      {cs rest : List Char} (h : elements read fuel true cs = .ok (xs, rest)) :
      ReadWith (some read) (.array xs)
  | object {read : List Char → Except Fault (Json × List Char)} {fuel : Nat}
      {ms : List (String × Json)} {cs rest : List Char}
      (h : members (plainMember read) fuel true [] cs = .ok (ms, rest)) :
      ReadWith (some read) (.object ms.reverse)

variable {nested : Option (List Char → Except Fault (Json × List Char))}

theorem readWith_of_valueWith {cs rest : List Char} {v : Json}
    (h : valueWith nested cs = .ok (v, rest)) : ReadWith nested v := by
  have number : ∀ {negative : Bool} {cs' : List Char}, (numberRest negative cs' >>= fun p =>
      Except.ok (Json.number p.1, p.2)) = .ok (v, rest) → ReadWith nested v := by
    intro negative cs' h
    obtain ⟨⟨n, rest'⟩, hn, h⟩ := Except.bind_eq_ok h
    cases h
    exact .number (inRange_numberRest hn)
  unfold valueWith at h
  split at h
  · cases h
  · -- one case for each character that can stand in front
    split_ifs at h
    · exact ident_value h ▸ .null
    · exact ident_value h ▸ .bool true
    · exact ident_value h ▸ .bool false
    · obtain ⟨⟨s, rest'⟩, -, h⟩ := Except.bind_eq_ok h
      cases h
      exact .string s
    · exact number h
    · exact number h
    · split at h
      · cases h
      · obtain ⟨⟨xs, rest'⟩, hxs, h⟩ := Except.bind_eq_ok h
        cases h
        exact .array hxs
    · split at h
      · cases h
      · obtain ⟨⟨ms, rest'⟩, hms, h⟩ := Except.bind_eq_ok h
        cases h
        exact .object hms

/-- A value is one level deeper than the values inside it. -/
theorem ReadWith.readable {v : Json} (h : ReadWith nested v) {depth : Nat}
    (hnested : ∀ read, nested = some read → ∃ d, depth = d + 1 ∧
      ∀ cs x rest, read cs = .ok (x, rest) → Readable d x) : Readable depth v := by
  cases h with
  | null => exact ⟨.null _, .null⟩
  | bool b => exact ⟨.bool _ b, .bool b⟩
  | string s => exact ⟨.string _ s, .string s⟩
  | number hn => exact ⟨.number _ _, .number hn⟩
  | @array read _ xs _ _ h =>
      obtain ⟨d, rfl, hread⟩ := hnested read rfl
      have hall := forall_mem_elements hread h
      exact ⟨.array fun v hv => (hall v hv).within, .array fun v hv => (hall v hv).numbers⟩
  | @object read _ ms _ _ h =>
      obtain ⟨d, rfl, hread⟩ := hnested read rfl
      have hall : ∀ m ∈ ms, Readable d m.2 :=
        members_keep (P := fun ms => ∀ m ∈ ms, Readable d m.2) (plainMember_keep hread) h
          fun _ h => absurd h List.not_mem_nil
      have hall' : ∀ m ∈ ms.reverse, Readable d m.2 :=
        fun m hm => hall m (List.mem_reverse.mp hm)
      exact ⟨.object fun m hm => (hall' m hm).within, .object fun m hm => (hall' m hm).numbers⟩

/-- **What the reader of a depth gives is readable at that depth.** -/
theorem readable_of_value {depth : Nat} {cs rest : List Char} {v : Json}
    (h : value depth cs = .ok (v, rest)) : Readable depth v := by
  induction depth generalizing cs rest v with
  | zero => exact (readWith_of_valueWith h).readable fun _ hnone => by cases hnone
  | succ depth ih =>
      refine (readWith_of_valueWith h).readable fun read hread => ⟨depth, rfl, ?_⟩
      cases hread
      exact fun _ _ _ => ih

end Json

end Streamkeeper
