import Streamkeeper.Proofs.Text.Lines

/-!
# UTF-8 — what is read was written

`next` reads a character from no other octets than its own (`eq_encodeChar_of_next`), so octets are
read as a text exactly if they are what the text is written as (`decode?_eq_ok_iff`); lossy reading
changes nothing of such octets (`decodeLossy_encode`).

Cutting octets at line feeds cuts no character, so octets are a text exactly if every line of them
is (`isText_iff_lines`).
-/

namespace Streamkeeper.Text.Utf8

/-! ### The octets that a character is read from -/

theorem octet_eq {a : UInt8} {n : Nat} (h : n = a.toNat) : UInt8.ofNat n = a := by
  rw [h, UInt8.ofNat_toNat]

theorem tail_eq {b : UInt8} {n : Nat} (hb : isTail b = true) (h : n % 64 = tailBits b) :
    tail n = b := by
  obtain ⟨hlow, hhigh⟩ := isTail_iff.mp hb
  refine octet_eq ?_
  rw [h, tailBits]
  omega

theorem tailBits_lt (b : UInt8) : tailBits b < 64 :=
  Nat.mod_lt _ (by decide)

/-- A second octet is a continuation octet, and keeps out what fits two octets and surrogates. -/
theorem isTail_of_isSecondOfThree {a b : UInt8} (h : isSecondOfThree a b = true) :
    isTail b = true ∧ (a.toNat = 0xE0 → 32 ≤ tailBits b) ∧ (a.toNat = 0xED → tailBits b < 32) := by
  rw [isSecondOfThree_iff] at h
  rw [isTail_iff, tailBits]
  split_ifs at h <;> omega

/-- A second octet is a continuation octet, and keeps out what fits three octets and what is too
large. -/
theorem isTail_of_isSecondOfFour {a b : UInt8} (h : isSecondOfFour a b = true) :
    isTail b = true ∧ (a.toNat = 0xF0 → 16 ≤ tailBits b) ∧ (a.toNat = 0xF4 → tailBits b < 16) := by
  rw [isSecondOfFour_iff] at h
  rw [isTail_iff, tailBits]
  split_ifs at h <;> omega

/-- The number of a character, unless it is a surrogate's or too large. -/
theorem toNat_ofNat {n : Nat} (h : n < 0xD800 ∨ 0xDFFF < n ∧ n < 0x110000) :
    (Char.ofNat n).toNat = n := by
  rw [Char.ofNat, dif_pos (show n.isValidChar from h)]
  rfl

/-- The octets of the character with a number, by the size of the number. -/
theorem encodeChar_ofNat {n : Nat} (h : n < 0xD800 ∨ 0xDFFF < n ∧ n < 0x110000) :
    String.utf8EncodeChar (Char.ofNat n) =
      if n < 0x80 then [UInt8.ofNat n]
      else if n < 0x800 then [UInt8.ofNat (n / 64 + 0xC0), tail n]
      else if n < 0x10000 then [UInt8.ofNat (n / 4096 + 0xE0), tail (n / 64), tail n]
      else [UInt8.ofNat (n / 262144 + 0xF0), tail (n / 4096), tail (n / 64), tail n] := by
  have hcases := encodeChar_cases (Char.ofNat n)
  rw [toNat_ofNat h] at hcases
  rcases hcases with ⟨hn, he⟩ | ⟨hn, he⟩ | ⟨hn, he⟩ | ⟨hn, he⟩
  · rw [he, if_pos hn]
  · rw [he, if_neg (by omega), if_pos hn.2]
  · rw [he, if_neg (by omega), if_neg (by omega), if_pos hn.2]
  · rw [he, if_neg (by omega), if_neg (by omega), if_neg (by omega)]

theorem encodeChar_of_one {a : UInt8} (ha : a < 0x80) :
    String.utf8EncodeChar (Char.ofNat a.toNat) = [a] := by
  have hn : a.toNat < 0x80 := UInt8.lt_iff_toNat_lt.mp ha
  rw [encodeChar_ofNat (by omega), if_pos hn, UInt8.ofNat_toNat]

theorem encodeChar_of_two {a b : UInt8} (ha : (0xC2 ≤ a && a ≤ 0xDF) = true)
    (hb : isTail b = true) :
    String.utf8EncodeChar (Char.ofNat ((a.toNat - 0xC0) * 64 + tailBits b)) = [a, b] := by
  obtain ⟨hlow, hhigh⟩ := inRange_iff.mp ha
  simp only [UInt8.reduceToNat] at hlow hhigh
  have hbits := tailBits_lt b
  rw [encodeChar_ofNat (by omega), if_neg (by omega), if_pos (by omega),
    octet_eq (a := a) (by omega), tail_eq hb (by omega)]

theorem encodeChar_of_three {a b c : UInt8} (ha : (0xE0 ≤ a && a ≤ 0xEF) = true)
    (hb : isSecondOfThree a b = true) (hc : isTail c = true) :
    String.utf8EncodeChar
      (Char.ofNat ((a.toNat - 0xE0) * 4096 + tailBits b * 64 + tailBits c)) = [a, b, c] := by
  obtain ⟨hlow, hhigh⟩ := inRange_iff.mp ha
  simp only [UInt8.reduceToNat] at hlow hhigh
  obtain ⟨htail, hshort, hsurrogate⟩ := isTail_of_isSecondOfThree hb
  have hbits := tailBits_lt b
  have hbits' := tailBits_lt c
  rw [encodeChar_ofNat (by omega), if_neg (by omega), if_neg (by omega), if_pos (by omega),
    octet_eq (a := a) (by omega), tail_eq htail (by omega), tail_eq hc (by omega)]

theorem encodeChar_of_four {a b c d : UInt8} (ha : (0xF0 ≤ a && a ≤ 0xF4) = true)
    (hb : isSecondOfFour a b = true) (hc : isTail c = true) (hd : isTail d = true) :
    String.utf8EncodeChar (Char.ofNat ((a.toNat - 0xF0) * 262144 + tailBits b * 4096 +
      tailBits c * 64 + tailBits d)) = [a, b, c, d] := by
  obtain ⟨hlow, hhigh⟩ := inRange_iff.mp ha
  simp only [UInt8.reduceToNat] at hlow hhigh
  obtain ⟨htail, hshort, hlarge⟩ := isTail_of_isSecondOfFour hb
  have hbits := tailBits_lt b
  have hbits' := tailBits_lt c
  have hbits'' := tailBits_lt d
  rw [encodeChar_ofNat (by omega), if_neg (by omega), if_neg (by omega), if_neg (by omega),
    octet_eq (a := a) (by omega), tail_eq htail (by omega), tail_eq hc (by omega),
    tail_eq hd (by omega)]

/-- A character is read from its own octets only. -/
theorem eq_encodeChar_of_next {a : UInt8} {bs rest : Octets} {c : Char}
    (h : next a bs = .char c rest) : a :: bs = String.utf8EncodeChar c ++ rest := by
  unfold next at h
  split at h
  · next ha =>
    cases h
    rw [encodeChar_of_one ha]
    rfl
  split at h
  · next ha =>
    split at h
    · cases h
    split at h
    · next hb =>
      cases h
      rw [encodeChar_of_two ha hb]
      rfl
    · cases h
  split at h
  · next ha =>
    split at h
    · cases h
    split at h
    · next hb =>
      split at h
      · cases h
      split at h
      · next hc =>
        cases h
        rw [encodeChar_of_three ha hb hc]
        rfl
      · cases h
    · cases h
  split at h
  · next ha =>
    split at h
    · cases h
    split at h
    · next hb =>
      split at h
      · cases h
      split at h
      · next hc =>
        split at h
        · cases h
        split at h
        · next hd =>
          cases h
          rw [encodeChar_of_four ha hb hc hd]
          rfl
        · cases h
      · cases h
    · cases h
  · cases h

/-! ### Texts -/

theorem eq_encode_of_decodeFrom {fuel index : Nat} {bs : Octets} {cs : List Char}
    (hf : bs.length ≤ fuel) (h : decodeFrom fuel index bs = .ok cs) : bs = encode cs := by
  induction fuel generalizing index bs cs with
  | zero =>
      cases h
      exact List.length_eq_zero_iff.mp (Nat.le_zero.mp hf)
  | succ fuel ih =>
      cases bs with
      | nil =>
          cases h
          rfl
      | cons a bs =>
          rw [decodeFrom] at h
          cases hn : next a bs with
          | flawed n rest =>
              rw [hn] at h
              cases h
          | cut =>
              rw [hn] at h
              cases h
          | char c rest =>
              rw [hn] at h
              have he := eq_encodeChar_of_next hn
              cases hr : decodeFrom fuel (index + c.utf8Size) rest with
              | error flaw =>
                  simp only [hr, Except.map] at h
                  cases h
              | ok cs' =>
                  simp only [hr, Except.map] at h
                  cases h
                  have hlen : rest.length ≤ fuel := by
                    obtain ⟨b, bs', hb, -⟩ := next_encodeChar c
                    have := congrArg List.length he
                    rw [hb, List.length_append] at this
                    simp only [List.length_cons] at this hf
                    omega
                  rw [he, encode_cons, ih hlen hr]

/-- Octets are read as a text exactly if the text is written so. -/
theorem decode?_eq_ok_iff {bs : Octets} {cs : List Char} : decode? bs = .ok cs ↔ bs = encode cs :=
  ⟨eq_encode_of_decodeFrom (Nat.le_refl _), fun h => h ▸ decode?_encode cs⟩

/-- A text is read back from its octets, also where every octet is read. -/
theorem decodeLossyFrom_encode {cs : List Char} {fuel : Nat} (h : cs.length ≤ fuel) :
    decodeLossyFrom fuel (encode cs) = cs := by
  induction cs generalizing fuel with
  | nil => cases fuel <;> rfl
  | cons c cs ih =>
      obtain ⟨fuel, rfl⟩ : ∃ k, fuel = k + 1 := ⟨fuel - 1, by rw [List.length_cons] at h; omega⟩
      obtain ⟨a, bs, he, hnext⟩ := next_encodeChar c
      have hl : cs.length ≤ fuel := Nat.le_of_succ_le_succ h
      rw [encode_cons, he, List.cons_append, decodeLossyFrom, hnext]
      simp only [ih hl]

@[simp] theorem decodeLossy_encode (cs : List Char) : decodeLossy (encode cs) = cs :=
  decodeLossyFrom_encode (length_le_length_encode cs)

/-- Octets that are a text from end to end. -/
def IsText (bs : Octets) : Prop :=
  ∃ cs, bs = encode cs

theorem isText_nil : IsText [] :=
  ⟨[], rfl⟩

theorem IsText.append {bs bs' : Octets} (h : IsText bs) (h' : IsText bs') : IsText (bs ++ bs') := by
  obtain ⟨cs, rfl⟩ := h
  obtain ⟨cs', rfl⟩ := h'
  exact ⟨cs ++ cs', (encode_append cs cs').symm⟩

theorem isText_flatMap {α : Type} {f : α → Octets} {xs : List α} (h : ∀ x ∈ xs, IsText (f x)) :
    IsText (xs.flatMap f) := by
  induction xs with
  | nil => exact isText_nil
  | cons x xs ih =>
      obtain ⟨hx, hxs⟩ := List.forall_mem_cons.mp h
      exact hx.append (ih hxs)

end Streamkeeper.Text.Utf8

namespace Streamkeeper.Text

open Utf8 (IsText)

/-! ### Lines -/

/-- Cutting octets at line feeds loses none. -/
theorem flatMap_octets_linesFrom {fuel : Nat} {bytes : Octets} (h : bytes.length ≤ fuel) :
    (linesFrom fuel bytes).flatMap Line.octets = bytes := by
  induction fuel generalizing bytes with
  | zero => exact (List.length_eq_zero_iff.mp (Nat.le_zero.mp h)).symm
  | succ fuel ih =>
      by_cases hl : lineFeed ∈ bytes
      · obtain ⟨l, rest, rfl, hfirst⟩ := List.eq_append_cons_of_mem hl
        have hrest : rest.length ≤ fuel := by
          rw [List.length_append, List.length_cons] at h
          omega
        rw [linesFrom_line hfirst, List.flatMap_cons, ih hrest]
        simp [Line.octets]
      · by_cases hne : bytes = []
        · rw [hne, linesFrom_nil, List.flatMap_nil]
        · rw [linesFrom_last hl hne, List.flatMap_singleton]
          rfl

theorem isText_of_text? {l : Line} {cs : List Char} (h : l.text? = .ok cs) : IsText l.octets := by
  cases hd : Utf8.decode? l.octets with
  | error flaw =>
      rw [Line.text?, hd] at h
      cases h
  | ok cs' => exact ⟨cs', Utf8.decode?_eq_ok_iff.mp hd⟩

/-- **Octets are a text exactly if every line of them is.** -/
theorem isText_iff_lines {bs : Octets} :
    IsText bs ↔ ∀ l ∈ lines bs, ∃ cs, l.text? = .ok cs := by
  constructor
  · rintro ⟨cs, rfl⟩ l hl
    obtain ⟨t, rfl⟩ := WrittenText.exists_chars cs
    have ht : l.text? ∈ t.texts.map Except.ok := by
      rw [← t.texts_lines]
      exact List.mem_map_of_mem hl
    obtain ⟨text, -, ht⟩ := List.mem_map.mp ht
    exact ⟨text, ht.symm⟩
  · intro h
    rw [← flatMap_octets_linesFrom (Nat.le_refl bs.length)]
    refine Utf8.isText_flatMap fun l hl => ?_
    obtain ⟨cs, hcs⟩ := h l hl
    exact isText_of_text? hcs

end Streamkeeper.Text
