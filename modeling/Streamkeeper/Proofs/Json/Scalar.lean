import Streamkeeper.Json.Reader
import Streamkeeper.Proofs.Decimal

/-!
# JSON scalars — strings and integers are read as they are written

A character inside a string is read back from its escape (`stringChars_escapeChar`), so a string is
read back up to its closing quote, whatever follows (`stringRest_text`).  The digits of a number
below 2^64 are read back as that number where nothing follows that belongs to a number
(`numberRest_digits`).
-/

namespace Streamkeeper.Json

/-! ### Strings -/

theorem hexValue?_digitChar : ∀ n < 16, hexValue? (Nat.digitChar n) = some n := by
  decide

theorem utf8Size_digitChar : ∀ n < 16, (Nat.digitChar n).utf8Size = 1 := by
  decide

/-- Two hexadecimal digits after two zeros. -/
theorem hexEscape_digits {a b : Nat} (ha : a < 16) (hb : b < 16) (rest : List Char) :
    hexEscape ('0' :: '0' :: Nat.digitChar a :: Nat.digitChar b :: rest) =
      .ok (a * 16 + b, rest) := by
  have hsize : octetCount (String.ofList ['0', '0', Nat.digitChar a, Nat.digitChar b]) = 4 := by
    have hzero : '0'.utf8Size = 1 := by decide
    simp [octetCount, utf8Size_digitChar a ha, utf8Size_digitChar b hb, hzero]
  have hnumber : hexNumber? ['0', '0', Nat.digitChar a, Nat.digitChar b] = some (a * 16 + b) := by
    have hzero : hexValue? '0' = some 0 := by decide
    simp [hexNumber?, hexValue?_digitChar a ha, hexValue?_digitChar b hb, hzero]
  simp only [hexEscape, List.take_succ_cons, List.take_zero, hsize, hnumber, List.length_cons,
    List.length_nil, List.drop_succ_cons, List.drop_zero]
  rfl

theorem unicodeEscape_control {c : Char} (h : c.toNat < 0x20) (rest : List Char) :
    unicodeEscape ('0' :: '0' :: Nat.digitChar (c.toNat / 16) :: Nat.digitChar (c.toNat % 16) ::
      rest) = .ok (c, rest) := by
  have hn : c.toNat / 16 * 16 + c.toNat % 16 = c.toNat := by omega
  have hlow : ¬(0xDC00 ≤ c.toNat ∧ c.toNat ≤ 0xDFFF) := by omega
  have hhigh : c.toNat < 0xD800 ∨ 0xDBFF < c.toNat := by omega
  rw [unicodeEscape, hexEscape_digits (by omega) (by omega), hn]
  simp only [bind, Except.bind, if_neg hlow, if_pos hhigh, Char.ofNat_toNat]

/-- A character inside a string is read back from what is written for it. -/
theorem stringChars_escapeChar (fuel : Nat) (c : Char) (cs : List Char) :
    stringChars (fuel + 1) (escapeChar c ++ cs) =
      (stringChars fuel cs).map fun p => (c :: p.1, p.2) := by
  have hmap : (stringChars fuel cs).map (fun p => (c :: p.1, p.2)) =
      stringChars fuel cs >>= fun p => .ok (c :: p.1, p.2) := by
    cases stringChars fuel cs <;> rfl
  rw [hmap, escapeChar]
  -- seven characters with an escape of two, the other control characters, and all that are left
  split_ifs with h₁ h₂ h₃ h₄ h₅ h₆ h₇ h₈
  · rw [h₁]; rfl
  · rw [h₂]; rfl
  · rw [h₃]; rfl
  · rw [h₄]; rfl
  · rw [h₅]; rfl
  · rw [h₆]; rfl
  · rw [h₇]; rfl
  · simp only [controlEscape, List.cons_append, List.nil_append, stringChars, escapeSequence,
      unicodeEscape_control h₈]
    rfl
  · rw [List.singleton_append, stringChars, if_neg h₁, if_neg h₂, if_neg h₈]

theorem stringChars_text {cs : List Char} {fuel : Nat} (h : cs.length < fuel) (rest : List Char) :
    stringChars fuel (cs.flatMap escapeChar ++ '"' :: rest) = .ok (cs, rest) := by
  induction cs generalizing fuel with
  | nil =>
      obtain ⟨k, rfl⟩ : ∃ k, fuel = k + 1 := Nat.exists_eq_add_one.mpr h
      rfl
  | cons c cs ih =>
      obtain ⟨k, rfl⟩ : ∃ k, fuel = k + 1 := ⟨fuel - 1, by omega⟩
      rw [List.flatMap_cons, List.append_assoc, stringChars_escapeChar,
        ih (Nat.lt_of_succ_lt_succ h)]
      rfl

theorem escapeChar_ne_nil (c : Char) : escapeChar c ≠ [] := by
  unfold escapeChar controlEscape
  split_ifs <;> simp

theorem length_le_length_escaped (cs : List Char) : cs.length ≤ (cs.flatMap escapeChar).length := by
  induction cs with
  | nil => exact Nat.le_refl 0
  | cons c cs ih =>
      have hc := List.length_pos_iff.mpr (escapeChar_ne_nil c)
      rw [List.flatMap_cons, List.length_append, List.length_cons]
      omega

/-- A string is read back after its opening quote. -/
theorem stringRest_text (s : String) (rest : List Char) :
    stringRest (s.toList.flatMap escapeChar ++ '"' :: rest) = .ok (s, rest) := by
  have hf : s.toList.length < (s.toList.flatMap escapeChar ++ '"' :: rest).length + 1 := by
    have hl := length_le_length_escaped s.toList
    rw [List.length_append]
    omega
  rw [stringRest, stringChars_text hf]
  simp only [bind, Except.bind, String.ofList_toList]

/-! ### Integers -/

/-- Nothing that would belong to a number stands in front. -/
def Delimited (rest : List Char) : Prop :=
  ∀ c ∈ rest.head?, c.isDigit = false ∧ c ≠ '.' ∧ c ≠ 'e' ∧ c ≠ 'E'

theorem split_digits (n : Nat) {rest : List Char} (h : Delimited rest) :
    Decimal.split (Decimal.digits n ++ rest) = (Decimal.digits n, rest) :=
  Decimal.split_eq_iff.mpr
    ⟨rfl, fun _ => Decimal.isDigit_of_mem_digits, fun c hc => (h c hc).1⟩

theorem digitChar_ne_zero : ∀ n < 10, 0 < n → Nat.digitChar n ≠ '0' := by
  decide

/-- Only zero begins with a zero. -/
theorem digits_head {n : Nat} (h : 0 < n) : ∃ d ds, Decimal.digits n = d :: ds ∧ d ≠ '0' := by
  induction n using Nat.strongRecOn with
  | ind n ih =>
      by_cases hn : n < 10
      · exact ⟨_, [], Nat.toDigits_of_lt_base hn, digitChar_ne_zero n hn h⟩
      · obtain ⟨d, ds, hd, hne⟩ := ih (n / 10) (by omega) (by omega)
        refine ⟨d, ds ++ [Nat.digitChar (n % 10)], ?_, hne⟩
        rw [Decimal.digits, Nat.toDigits_of_base_le (by decide) (Nat.le_of_not_lt hn)]
        rw [Decimal.digits] at hd
        rw [hd, List.cons_append]

/-- Digits are taken as long as the number stays below the limit. -/
theorem absorb_digits {ds : List Char} {n : Nat} (h : Nat.ofDigitChars 10 ds n < significandLimit) :
    absorb n ds = (Nat.ofDigitChars 10 ds n, []) := by
  induction ds generalizing n with
  | nil => rfl
  | cons d ds ih =>
      rw [Nat.ofDigitChars_cons] at h ⊢
      have hw : n * 10 + Decimal.value [d] = 10 * n + (d.toNat - '0'.toNat) := by
        rw [Decimal.value, Nat.ofDigitChars_cons, Nat.ofDigitChars_nil]
        omega
      have hle : 10 * n + (d.toNat - '0'.toNat) ≤
          Nat.ofDigitChars 10 ds (10 * n + (d.toNat - '0'.toNat)) := by
        rw [Nat.ofDigitChars_eq_ofDigitChars_zero]
        exact Nat.le_trans (Nat.le_mul_of_pos_left _ (Nat.pow_pos (by decide)))
          (Nat.le_add_right _ _)
      simp only [absorb, hw, if_pos (Nat.lt_of_le_of_lt hle h), ih h]

theorem numberRest_digits (negative : Bool) {n : Nat} (hn : n < Nat.pow 2 64) {rest : List Char}
    (h : Delimited rest) :
    numberRest negative (Decimal.digits n ++ rest) = .ok (integer negative n, rest) := by
  have ha : absorb 0 (Decimal.digits n) = (n, []) := by
    have hv : Nat.ofDigitChars 10 (Decimal.digits n) 0 = n := Nat.ofDigitChars_ten_toDigits
    rw [absorb_digits (by rw [hv]; exact hn), hv]
  simp only [numberRest, split_digits n h]
  split
  · rename_i hd
    exact absurd hd (Decimal.digits_ne_nil n)
  · -- a zero in front of other digits
    rename_i hd
    rcases Nat.eq_zero_or_pos n with rfl | hpos
    · cases hd
    · obtain ⟨_, _, hd', hne⟩ := digits_head hpos
      rw [hd] at hd'
      cases hd'
      exact absurd rfl hne
  · rw [ha]
    split
    · rename_i rest'
      exact absurd rfl (h '.' rfl).2.1
    · have he : rest.head? ≠ some 'e' := fun he => (h 'e' he).2.2.1 rfl
      have hE : rest.head? ≠ some 'E' := fun he => (h 'E' he).2.2.2 rfl
      rw [if_pos ⟨rfl, he, hE⟩]

end Streamkeeper.Json
