import Streamkeeper.Proofs.Json.Rounds

/-!
# JSON lengths — no reader leaves more than it is given

Every rule of the reader leaves at most the characters that it is given (`Shortens`), a value of any
depth included (`shortens_value`).  An array therefore has no more elements than characters
(`length_elements`), and the rounds that its loop is given, one for each character, are enough: any
other number that is enough reads the same (`elements_of_rounds`).
-/

namespace Streamkeeper.Json

/-- A reader that leaves no more than it is given. -/
def Shortens {α : Type} (read : List Char → Except Fault (α × List Char)) : Prop :=
  ∀ ⦃cs x rest⦄, read cs = .ok (x, rest) → rest.length ≤ cs.length

theorem length_skip_le (cs : List Char) : (skip cs).length ≤ cs.length :=
  (List.dropWhile_suffix _).length_le

theorem length_split_le {cs ds rest : List Char} (h : Decimal.split cs = (ds, rest)) :
    rest.length ≤ cs.length := by
  cases h
  exact (List.dropWhile_suffix _).length_le

/-! ### Words and strings -/

theorem shortens_ident (word : List Char) (v : Json) : Shortens (ident word v) := by
  intro cs x rest h
  induction word generalizing cs with
  | nil =>
      cases h
      exact Nat.le_refl _
  | cons w word ih =>
      cases cs with
      | nil => cases h
      | cons c cs =>
          rw [ident] at h
          split at h
          · exact Nat.le_succ_of_le (ih h)
          · cases h

theorem shortens_hexEscape : Shortens hexEscape := by
  intro cs x rest h
  simp only [hexEscape] at h
  split at h
  · cases h
  · split at h
    · split at h
      · cases h
        rw [List.length_drop]
        exact Nat.sub_le _ _
      · cases h
    · cases h

theorem length_surrogateLink {expected : Char} {cs rest : List Char}
    (h : surrogateLink expected cs = .ok rest) : rest.length ≤ cs.length := by
  cases cs with
  | nil => cases h
  | cons c cs =>
      rw [surrogateLink] at h
      split at h
      · cases h
        exact Nat.le_succ _
      · cases h

theorem shortens_unicodeEscape : Shortens unicodeEscape := by
  intro cs x rest h
  obtain ⟨⟨n, rest₁⟩, h₁, h⟩ := Except.bind_eq_ok h
  have hl₁ := shortens_hexEscape h₁
  simp only at h
  split at h
  · cases h
  split at h
  · cases h
    exact hl₁
  obtain ⟨rest₂, h₂, h⟩ := Except.bind_eq_ok h
  obtain ⟨rest₃, h₃, h⟩ := Except.bind_eq_ok h
  obtain ⟨⟨m, rest₄⟩, h₄, h⟩ := Except.bind_eq_ok h
  have hl₂ := length_surrogateLink h₂
  have hl₃ := length_surrogateLink h₃
  have hl₄ := shortens_hexEscape h₄
  simp only at h
  split at h
  · cases h
  · obtain rfl : rest₄ = rest := congrArg Prod.snd (Except.ok.inj h)
    omega

theorem shortens_escapeSequence : Shortens escapeSequence := by
  intro cs x rest h
  cases cs with
  | nil => cases h
  | cons c cs =>
      rw [escapeSequence] at h
      by_cases hu : c = 'u'
      · subst hu
        exact Nat.le_succ_of_le (shortens_unicodeEscape h)
      · -- any other character stands for itself alone
        split_ifs at h <;> cases h <;> exact Nat.le_succ _

theorem shortens_stringChars (fuel : Nat) : Shortens (stringChars fuel) := by
  intro cs x rest h
  induction fuel generalizing cs x with
  | zero => cases h
  | succ fuel ih =>
      cases cs with
      | nil => cases h
      | cons c cs =>
          rw [stringChars] at h
          split at h
          · cases h
            exact Nat.le_succ _
          split at h
          · obtain ⟨⟨d, rest₁⟩, h₁, h⟩ := Except.bind_eq_ok h
            obtain ⟨⟨ds, rest₂⟩, h₂, h⟩ := Except.bind_eq_ok h
            cases h
            exact Nat.le_succ_of_le ((ih h₂).trans (shortens_escapeSequence h₁))
          split at h
          · cases h
          · obtain ⟨⟨ds, rest₁⟩, h₁, h⟩ := Except.bind_eq_ok h
            cases h
            exact Nat.le_succ_of_le (ih h₁)

theorem shortens_stringRest : Shortens stringRest := by
  intro cs x rest h
  obtain ⟨⟨ds, rest₁⟩, h₁, h⟩ := Except.bind_eq_ok h
  cases h
  exact shortens_stringChars _ h₁

/-! ### Numbers -/

section Numbers

variable {negative : Bool} {significand : Nat} {exponent : Int}

theorem shortens_realNumber : Shortens (realNumber negative significand exponent) := by
  intro cs n rest h
  unfold realNumber at h
  split at h
  · cases h
    exact Nat.le_refl _
  · cases h

theorem shortens_exponentPart : Shortens (exponentPart negative significand exponent) := by
  intro cs n rest h
  unfold exponentPart at h
  split at h
  next minus cs' hsign =>
    have hcs' : cs'.length ≤ cs.length := by
      split at hsign <;> cases hsign <;> simp
    split at h
    next ds rest' hsplit =>
      have hle : rest'.length ≤ cs.length := (length_split_le hsplit).trans hcs'
      split at h
      · split at h <;> cases h
      · split at h
        · exact (shortens_realNumber h).trans hle
        · split at h
          · cases h
          · cases h
            exact hle

theorem shortens_afterDigits : Shortens (afterDigits negative significand exponent) := by
  intro cs n rest h
  unfold afterDigits at h
  split at h
  · exact Nat.le_succ_of_le (shortens_exponentPart h)
  · exact Nat.le_succ_of_le (shortens_exponentPart h)
  · exact shortens_realNumber h

theorem shortens_fractionPart : Shortens (fractionPart negative significand exponent) := by
  intro cs n rest h
  unfold fractionPart at h
  split at h
  next ds rest' hsplit =>
    split at h
    · split at h <;> cases h
    · exact (shortens_afterDigits h).trans (length_split_le hsplit)

end Numbers

theorem shortens_numberRest (negative : Bool) : Shortens (numberRest negative) := by
  intro cs n rest h
  unfold numberRest at h
  split at h
  next ds rest' hsplit =>
    have hle : rest'.length ≤ cs.length := length_split_le hsplit
    split at h
    · split at h <;> cases h
    · cases h
    · split at h
      next significand left _ =>
        split at h
        next rest'' => exact (shortens_fractionPart h).trans (Nat.le_of_succ_le hle)
        next =>
          split at h
          · cases h
            exact hle
          · exact (shortens_afterDigits h).trans hle

/-! ### Arrays and objects -/

theorem length_keyAt {c : Char} {rest : List Char} {e : Entry} (h : keyAt c rest = .ok e) :
    e.rest.length ≤ rest.length := by
  unfold keyAt at h
  split at h
  · obtain ⟨⟨name, rest₁⟩, h₁, h⟩ := Except.bind_eq_ok h
    cases h
    exact shortens_stringRest h₁
  · cases h

theorem length_nextEntry {isFirst : Bool} {cs : List Char} {e : Entry}
    (h : nextEntry isFirst cs = .ok e) : e.rest.length ≤ cs.length := by
  have hskip := length_skip_le cs
  unfold nextEntry at h
  split at h
  · cases h
  next c rest hc =>
    rw [hc, List.length_cons] at hskip
    split at h
    · cases h
      exact Nat.le_of_succ_le hskip
    split at h
    · exact (length_keyAt h).trans (Nat.le_of_succ_le hskip)
    split at h
    · have hskip' := length_skip_le rest
      split at h
      · cases h
      next d rest' hd =>
        rw [hd, List.length_cons] at hskip'
        split at h
        · cases h
        · have := length_keyAt h
          omega
    · cases h

theorem length_colon {cs rest : List Char} (h : colon cs = .ok rest) :
    rest.length ≤ cs.length := by
  have hskip := length_skip_le cs
  unfold colon at h
  split at h
  · cases h
  next c rest' hc =>
    rw [hc, List.length_cons] at hskip
    split at h
    · cases h
      exact Nat.le_of_succ_le hskip
    · cases h

/-- An item that is not the first comes after a comma. -/
theorem length_nextItem {isFirst : Bool} {cs : List Char} {i : Item}
    (h : nextItem isFirst cs = .ok i) : i.rest.length + (!isFirst).toNat ≤ cs.length := by
  have hskip := length_skip_le cs
  have hcomma := Bool.toNat_le (!isFirst)
  unfold nextItem at h
  split at h
  · cases h
  next c rest hc =>
    rw [hc, List.length_cons] at hskip
    split at h
    · cases h
      rw [Item.rest]
      omega
    split at h
    next hfirst =>
      cases h
      rw [hfirst]
      exact hskip
    split at h
    · have hskip' := length_skip_le rest
      split at h
      · cases h
      next d rest' hd =>
        rw [hd] at hskip'
        split at h
        · cases h
        · cases h
          rw [Item.rest]
          omega
    · cases h

section Loops

variable {read : List Char → Except Fault (Json × List Char)} (hread : Shortens read)
include hread

/-- There are no more elements than characters, since commas stand between them. -/
theorem length_elements {fuel : Nat} {isFirst : Bool} {cs rest : List Char} {xs : List Json}
    (h : elements read fuel isFirst cs = .ok (xs, rest)) :
    xs.length + rest.length + (!isFirst).toNat ≤ cs.length := by
  induction fuel generalizing isFirst cs xs with
  | zero => cases h
  | succ fuel ih =>
      rw [elements_succ] at h
      obtain ⟨i, hi, h⟩ := Except.bind_eq_ok h
      have hle := length_nextItem hi
      cases i with
      | close rest' =>
          cases h
          rwa [List.length_nil, Nat.zero_add]
      | element cs' =>
          obtain ⟨⟨x, rest₁⟩, h₁, h⟩ := Except.bind_eq_ok h
          obtain ⟨⟨xs', rest₂⟩, h₂, h⟩ := Except.bind_eq_ok h
          cases h
          have hx := hread h₁
          have hxs : xs'.length + rest₂.length + 1 ≤ rest₁.length := ih h₂
          rw [Item.rest] at hle
          simp only [List.length_cons]
          omega

theorem shortens_plainMember (sofar : List (String × Json)) (key : String) :
    Shortens (plainMember read sofar key) := by
  intro cs s rest h
  obtain ⟨cs₁, h₁, h⟩ := Except.bind_eq_ok h
  obtain ⟨⟨v, rest₁⟩, h₂, h⟩ := Except.bind_eq_ok h
  cases h
  exact (hread h₂).trans (length_colon h₁)

theorem shortens_members (fuel : Nat) (isFirst : Bool) (sofar : List (String × Json)) :
    Shortens (members (plainMember read) fuel isFirst sofar) := by
  intro cs s rest h
  induction fuel generalizing isFirst sofar cs with
  | zero => cases h
  | succ fuel ih =>
      rw [members_succ] at h
      obtain ⟨e, he, h⟩ := Except.bind_eq_ok h
      have hle := length_nextEntry he
      cases e with
      | close rest' =>
          cases h
          exact hle
      | key name rest' =>
          obtain ⟨⟨sofar', rest₁⟩, h₁, h⟩ := Except.bind_eq_ok h
          exact (ih _ _ h).trans ((shortens_plainMember hread _ _ h₁).trans hle)

end Loops

/-! ### Values -/

theorem shortens_valueWith {nested : Option (List Char → Except Fault (Json × List Char))}
    (hnested : ∀ read, nested = some read → Shortens read) : Shortens (valueWith nested) := by
  intro cs v rest h
  have hskip := length_skip_le cs
  unfold valueWith at h
  split at h
  · cases h
  next c rest' hc =>
    rw [hc, List.length_cons] at hskip
    -- one case for each character that can stand in front
    split_ifs at h
    · exact (shortens_ident _ _ h).trans (Nat.le_of_succ_le hskip)
    · exact (shortens_ident _ _ h).trans (Nat.le_of_succ_le hskip)
    · exact (shortens_ident _ _ h).trans (Nat.le_of_succ_le hskip)
    · obtain ⟨⟨s, rest₁⟩, h₁, h⟩ := Except.bind_eq_ok h
      cases h
      exact (shortens_stringRest h₁).trans (Nat.le_of_succ_le hskip)
    · obtain ⟨⟨n, rest₁⟩, h₁, h⟩ := Except.bind_eq_ok h
      cases h
      exact (shortens_numberRest _ h₁).trans (Nat.le_of_succ_le hskip)
    · obtain ⟨⟨n, rest₁⟩, h₁, h⟩ := Except.bind_eq_ok h
      cases h
      exact (shortens_numberRest _ h₁).trans hskip
    · split at h
      · cases h
      next read =>
        obtain ⟨⟨xs, rest₁⟩, h₁, h⟩ := Except.bind_eq_ok h
        cases h
        have hle := length_elements (hnested read rfl) h₁
        omega
    · split at h
      · cases h
      next read =>
        obtain ⟨⟨ms, rest₁⟩, h₁, h⟩ := Except.bind_eq_ok h
        cases h
        exact (shortens_members (hnested read rfl) _ _ _ h₁).trans (Nat.le_of_succ_le hskip)

/-- A value leaves no more than it is read from. -/
theorem shortens_value (depth : Nat) : Shortens (value depth) := by
  induction depth with
  | zero => exact shortens_valueWith fun _ h => by cases h
  | succ depth ih => exact shortens_valueWith fun read h => Option.some.inj h ▸ ih

/-! ### Rounds enough -/

/-- The elements of an array are read in any number of rounds that is enough for them. -/
theorem elements_of_rounds {read : List Char → Except Fault (Json × List Char)} {fuel fuel' : Nat}
    {isFirst : Bool} {cs rest : List Char} {xs : List Json}
    (h : elements read fuel isFirst cs = .ok (xs, rest)) (hf : xs.length < fuel') :
    elements read fuel' isFirst cs = .ok (xs, rest) := by
  induction fuel generalizing fuel' isFirst cs xs with
  | zero => cases h
  | succ fuel ih =>
      obtain ⟨fuel', rfl⟩ : ∃ k, fuel' = k + 1 := ⟨fuel' - 1, by omega⟩
      rw [elements_succ] at h ⊢
      obtain ⟨i, hi, h⟩ := Except.bind_eq_ok h
      rw [hi]
      cases i with
      | close rest' => exact h
      | element cs' =>
          obtain ⟨⟨x, rest₁⟩, h₁, h⟩ := Except.bind_eq_ok h
          obtain ⟨⟨xs', rest₂⟩, h₂, h⟩ := Except.bind_eq_ok h
          cases h
          have hrest := ih h₂ (Nat.lt_of_succ_lt_succ hf)
          simp only [bind, Except.bind, h₁, hrest]

end Streamkeeper.Json
