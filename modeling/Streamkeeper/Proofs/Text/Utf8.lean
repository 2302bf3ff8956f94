import Mathlib.Tactic.SplitIfs
import Streamkeeper.Text.Utf8

/-!
# UTF-8 — what is written is read back

A character takes one to four octets (`encodeChar_cases`), and `next` reads it from the front of
them, whatever follows (`next_encodeChar`).  So a text is read back whole (`decode?_encode`).  An
octet below 0x80 only ever stands for itself: octets of a text hold one exactly when the text holds
its character (`mem_encode_iff`).
-/

namespace Streamkeeper.Text.Utf8

theorem toNat_octet {n : Nat} (h : n < 256) : (UInt8.ofNat n).toNat = n :=
  UInt8.toNat_ofNat_of_lt' h

/-- The continuation octet that carries the last six bits of a number. -/
def tail (n : Nat) : UInt8 :=
  UInt8.ofNat (n % 64 + 0x80)

theorem toNat_tail (n : Nat) : (tail n).toNat = n % 64 + 0x80 :=
  toNat_octet (by omega)

theorem isTail_iff {b : UInt8} : isTail b = true ↔ 0x80 ≤ b.toNat ∧ b.toNat ≤ 0xBF := by
  simp [isTail, UInt8.le_iff_toNat_le]

@[simp] theorem isTail_tail (n : Nat) : isTail (tail n) = true := by
  rw [isTail_iff, toNat_tail]
  omega

@[simp] theorem tailBits_tail (n : Nat) : tailBits (tail n) = n % 64 := by
  rw [tailBits, toNat_tail]
  omega

theorem isSecondOfThree_iff {a b : UInt8} : isSecondOfThree a b = true ↔
    if a.toNat = 0xE0 then 0xA0 ≤ b.toNat ∧ b.toNat ≤ 0xBF
    else if a.toNat = 0xED then 0x80 ≤ b.toNat ∧ b.toNat ≤ 0x9F
    else 0x80 ≤ b.toNat ∧ b.toNat ≤ 0xBF := by
  simp only [isSecondOfThree, beq_iff_eq, ← UInt8.toNat_inj, UInt8.reduceToNat]
  split
  · simp [UInt8.le_iff_toNat_le]
  · split
    · simp [UInt8.le_iff_toNat_le]
    · exact isTail_iff

theorem isSecondOfFour_iff {a b : UInt8} : isSecondOfFour a b = true ↔
    if a.toNat = 0xF0 then 0x90 ≤ b.toNat ∧ b.toNat ≤ 0xBF
    else if a.toNat = 0xF4 then 0x80 ≤ b.toNat ∧ b.toNat ≤ 0x8F
    else 0x80 ≤ b.toNat ∧ b.toNat ≤ 0xBF := by
  simp only [isSecondOfFour, beq_iff_eq, ← UInt8.toNat_inj, UInt8.reduceToNat]
  split
  · simp [UInt8.le_iff_toNat_le]
  · split
    · simp [UInt8.le_iff_toNat_le]
    · exact isTail_iff

/-! ### Reading one character, by its size -/

/-- Is the octet in a range? -/
theorem inRange_iff {a low high : UInt8} :
    (low ≤ a && a ≤ high) = true ↔ low.toNat ≤ a.toNat ∧ a.toNat ≤ high.toNat := by
  simp [UInt8.le_iff_toNat_le]

theorem next_one {n : Nat} (h : n < 0x80) (rest : Octets) :
    next (UInt8.ofNat n) rest = .char (Char.ofNat n) rest := by
  have ha : (UInt8.ofNat n).toNat = n := toNat_octet (by omega)
  have hone : UInt8.ofNat n < 0x80 := by
    rw [UInt8.lt_iff_toNat_lt, ha]
    exact h
  unfold next
  rw [if_pos hone, ha]

theorem next_two {n : Nat} (h : 0x80 ≤ n ∧ n < 0x800) (rest : Octets) :
    next (UInt8.ofNat (n / 64 + 0xC0)) (tail n :: rest) = .char (Char.ofNat n) rest := by
  have ha : (UInt8.ofNat (n / 64 + 0xC0)).toNat = n / 64 + 0xC0 := toNat_octet (by omega)
  have hn : (n / 64 + 0xC0 - 0xC0) * 64 + n % 64 = n := by omega
  -- of the leading octet only its number counts from here on
  generalize UInt8.ofNat (n / 64 + 0xC0) = a at ha
  have hone : ¬a < 0x80 := by
    simp only [UInt8.lt_iff_toNat_lt, UInt8.reduceToNat]
    omega
  have htwo : (0xC2 ≤ a && a ≤ 0xDF) = true := by
    simp only [inRange_iff, UInt8.reduceToNat]
    omega
  simp only [next, if_neg hone, if_pos htwo, isTail_tail, tailBits_tail, ha, if_true, hn]

theorem next_three {n : Nat} (h : 0x800 ≤ n ∧ n < 0x10000) (hs : n < 0xD800 ∨ 0xDFFF < n)
    (rest : Octets) :
    next (UInt8.ofNat (n / 4096 + 0xE0)) (tail (n / 64) :: tail n :: rest) =
      .char (Char.ofNat n) rest := by
  have ha : (UInt8.ofNat (n / 4096 + 0xE0)).toNat = n / 4096 + 0xE0 := toNat_octet (by omega)
  have hn : (n / 4096 + 0xE0 - 0xE0) * 4096 + n / 64 % 64 * 64 + n % 64 = n := by omega
  generalize UInt8.ofNat (n / 4096 + 0xE0) = a at ha
  have hone : ¬a < 0x80 := by
    simp only [UInt8.lt_iff_toNat_lt, UInt8.reduceToNat]
    omega
  have htwo : ¬(0xC2 ≤ a && a ≤ 0xDF) = true := by
    simp only [inRange_iff, UInt8.reduceToNat]
    omega
  have hthree : (0xE0 ≤ a && a ≤ 0xEF) = true := by
    simp only [inRange_iff, UInt8.reduceToNat]
    omega
  have hsecond : isSecondOfThree a (tail (n / 64)) = true := by
    rw [isSecondOfThree_iff, ha, toNat_tail]
    split_ifs <;> omega
  simp only [next, if_neg hone, if_neg htwo, if_pos hthree, hsecond, isTail_tail, tailBits_tail,
    ha, if_true, hn]

theorem next_four {n : Nat} (h : 0x10000 ≤ n ∧ n < 0x110000) (rest : Octets) :
    next (UInt8.ofNat (n / 262144 + 0xF0))
      (tail (n / 4096) :: tail (n / 64) :: tail n :: rest) = .char (Char.ofNat n) rest := by
  have ha : (UInt8.ofNat (n / 262144 + 0xF0)).toNat = n / 262144 + 0xF0 :=
    toNat_octet (by omega)
  have hn : (n / 262144 + 0xF0 - 0xF0) * 262144 + n / 4096 % 64 * 4096 + n / 64 % 64 * 64 +
      n % 64 = n := by omega
  generalize UInt8.ofNat (n / 262144 + 0xF0) = a at ha
  have hone : ¬a < 0x80 := by
    simp only [UInt8.lt_iff_toNat_lt, UInt8.reduceToNat]
    omega
  have htwo : ¬(0xC2 ≤ a && a ≤ 0xDF) = true := by
    simp only [inRange_iff, UInt8.reduceToNat]
    omega
  have hthree : ¬(0xE0 ≤ a && a ≤ 0xEF) = true := by
    simp only [inRange_iff, UInt8.reduceToNat]
    omega
  have hfour : (0xF0 ≤ a && a ≤ 0xF4) = true := by
    simp only [inRange_iff, UInt8.reduceToNat]
    omega
  have hsecond : isSecondOfFour a (tail (n / 4096)) = true := by
    rw [isSecondOfFour_iff, ha, toNat_tail]
    split_ifs <;> omega
  simp only [next, if_neg hone, if_neg htwo, if_neg hthree, if_pos hfour, hsecond, isTail_tail,
    tailBits_tail, ha, if_true, hn]

/-! ### Characters and their octets -/

/-- The octets of a character, by its size. -/
theorem encodeChar_cases (c : Char) :
    (c.toNat < 0x80 ∧ String.utf8EncodeChar c = [UInt8.ofNat c.toNat]) ∨
    ((0x80 ≤ c.toNat ∧ c.toNat < 0x800) ∧
      String.utf8EncodeChar c = [UInt8.ofNat (c.toNat / 64 + 0xC0), tail c.toNat]) ∨
    ((0x800 ≤ c.toNat ∧ c.toNat < 0x10000) ∧
      String.utf8EncodeChar c =
        [UInt8.ofNat (c.toNat / 4096 + 0xE0), tail (c.toNat / 64), tail c.toNat]) ∨
    ((0x10000 ≤ c.toNat ∧ c.toNat < 0x110000) ∧
      String.utf8EncodeChar c = [UInt8.ofNat (c.toNat / 262144 + 0xF0), tail (c.toNat / 4096),
        tail (c.toNat / 64), tail c.toNat]) := by
  have hv : c.toNat.isValidChar := c.valid
  have hc : c.val.toNat = c.toNat := rfl
  unfold String.utf8EncodeChar
  simp only [hc]
  -- the masks of the leading octets change nothing at their sizes
  split_ifs with h₁ h₂ h₃
  · exact Or.inl ⟨by omega, rfl⟩
  · refine Or.inr (Or.inl ⟨by omega, ?_⟩)
    rw [Nat.mod_eq_of_lt (show c.toNat / 64 < 0x20 by omega)]
    rfl
  · refine Or.inr (Or.inr (Or.inl ⟨by omega, ?_⟩))
    rw [Nat.mod_eq_of_lt (show c.toNat / 4096 < 0x10 by omega)]
    rfl
  · have hlast : c.toNat < 0x110000 := by rcases hv with hv | hv <;> omega
    refine Or.inr (Or.inr (Or.inr ⟨by omega, ?_⟩))
    rw [Nat.mod_eq_of_lt (show c.toNat / 262144 < 0x08 by omega)]
    rfl

/-- A character is read from the front of its octets. -/
theorem next_encodeChar (c : Char) : ∃ a bs, String.utf8EncodeChar c = a :: bs ∧
    ∀ rest, next a (bs ++ rest) = .char c rest := by
  have hc : Char.ofNat c.toNat = c := Char.ofNat_toNat c
  rcases encodeChar_cases c with ⟨h, he⟩ | ⟨h, he⟩ | ⟨h, he⟩ | ⟨h, he⟩
  · exact ⟨_, _, he, fun rest => (next_one h rest).trans (by rw [hc])⟩
  · exact ⟨_, _, he, fun rest => (next_two h rest).trans (by rw [hc])⟩
  · -- no character is a surrogate
    have hs : c.toNat < 0xD800 ∨ 0xDFFF < c.toNat := c.valid.imp_right And.left
    exact ⟨_, _, he, fun rest => (next_three h hs rest).trans (by rw [hc])⟩
  · exact ⟨_, _, he, fun rest => (next_four h rest).trans (by rw [hc])⟩

/-- An octet below 0x80 stands for the character of its number and for no other. -/
theorem mem_encodeChar_iff {c : Char} {b : UInt8} (hb : b < 0x80) :
    b ∈ String.utf8EncodeChar c ↔ c.toNat = b.toNat := by
  simp only [UInt8.lt_iff_toNat_lt, UInt8.reduceToNat] at hb
  have hne : ∀ {n : Nat}, 0x80 ≤ n → n < 256 → b ≠ UInt8.ofNat n := by
    rintro n hn hn' rfl
    rw [toNat_octet hn'] at hb
    omega
  have htail : ∀ n, b ≠ tail n := fun n => hne (by omega) (by omega)
  rcases encodeChar_cases c with ⟨h, he⟩ | ⟨h, he⟩ | ⟨h, he⟩ | ⟨h, he⟩
  · rw [he, List.mem_singleton, ← UInt8.toNat_inj, toNat_octet (by omega), eq_comm]
  · have hlead := hne (n := c.toNat / 64 + 0xC0) (by omega) (by omega)
    simp only [he, List.mem_cons, List.not_mem_nil, hlead, htail, false_or, false_iff]
    omega
  · have hlead := hne (n := c.toNat / 4096 + 0xE0) (by omega) (by omega)
    simp only [he, List.mem_cons, List.not_mem_nil, hlead, htail, false_or, false_iff]
    omega
  · have hlead := hne (n := c.toNat / 262144 + 0xF0) (by omega) (by omega)
    simp only [he, List.mem_cons, List.not_mem_nil, hlead, htail, false_or, false_iff]
    omega

/-! ### Texts and their octets -/

@[simp] theorem encode_nil : encode [] = [] := rfl

@[simp] theorem encode_append (cs ds : List Char) : encode (cs ++ ds) = encode cs ++ encode ds :=
  List.flatMap_append

theorem encode_cons (c : Char) (cs : List Char) :
    encode (c :: cs) = String.utf8EncodeChar c ++ encode cs := rfl

theorem mem_encode_iff {cs : List Char} {b : UInt8} (hb : b < 0x80) :
    b ∈ encode cs ↔ ∃ c ∈ cs, c.toNat = b.toNat := by
  simp only [encode, List.mem_flatMap, mem_encodeChar_iff hb]

theorem length_le_length_encode (cs : List Char) : cs.length ≤ (encode cs).length := by
  induction cs with
  | nil => exact Nat.le_refl 0
  | cons c cs ih =>
      obtain ⟨a, bs, he, -⟩ := next_encodeChar c
      rw [encode_cons, he, List.length_append, List.length_cons, List.length_cons]
      omega

@[simp] theorem encode_eq_nil_iff {cs : List Char} : encode cs = [] ↔ cs = [] := by
  refine ⟨fun h => ?_, fun h => by rw [h, encode_nil]⟩
  have hl := length_le_length_encode cs
  rw [h] at hl
  exact List.length_eq_zero_iff.mp (Nat.le_zero.mp hl)

/-- Every round reads one character, so as many rounds as characters suffice. -/
theorem decodeFrom_encode {cs : List Char} {fuel : Nat} (h : cs.length ≤ fuel) (index : Nat) :
    decodeFrom fuel index (encode cs) = .ok cs := by
  induction cs generalizing fuel index with
  | nil => cases fuel <;> rfl
  | cons c cs ih =>
      obtain ⟨fuel, rfl⟩ : ∃ k, fuel = k + 1 := ⟨fuel - 1, by rw [List.length_cons] at h; omega⟩
      obtain ⟨a, bs, he, hnext⟩ := next_encodeChar c
      have hl : cs.length ≤ fuel := Nat.le_of_succ_le_succ h
      rw [encode_cons, he, List.cons_append, decodeFrom, hnext]
      simp only [ih hl, Except.map]

/-- A text is read back from its octets. -/
@[simp] theorem decode?_encode (cs : List Char) : decode? (encode cs) = .ok cs :=
  decodeFrom_encode (length_le_length_encode cs) 0

end Streamkeeper.Text.Utf8
