import Streamkeeper.Proofs.Text.Utf8

/-!
# UTF-8 — the order of octets is the order of characters

Octets are compared from the front, by their numbers, and characters by theirs.  The octets of two
characters differ at a place that both have, and the smaller character has the smaller octet there
(`encodeChar_append_lt`).  So texts stand in the same order whether their characters are compared
or their octets (`encode_lt_encode_iff`, `octets_lt_octets_iff`).
-/

namespace Streamkeeper.Text.Utf8

theorem octet_lt_iff {a b : Nat} (ha : a < 256) (hb : b < 256) :
    UInt8.ofNat a < UInt8.ofNat b ↔ a < b := by
  rw [UInt8.lt_iff_toNat_lt, toNat_octet ha, toNat_octet hb]

theorem octet_eq_iff {a b : Nat} (ha : a < 256) (hb : b < 256) :
    UInt8.ofNat a = UInt8.ofNat b ↔ a = b := by
  rw [← UInt8.toNat_inj, toNat_octet ha, toNat_octet hb]

theorem tail_lt_iff {a b : Nat} : tail a < tail b ↔ a % 64 < b % 64 := by
  rw [tail, tail, octet_lt_iff (by omega) (by omega)]
  omega

theorem tail_eq_iff {a b : Nat} : tail a = tail b ↔ a % 64 = b % 64 := by
  rw [tail, tail, octet_eq_iff (by omega) (by omega)]
  omega

/-- The smaller of two characters has the smaller octets, whatever follows either. -/
theorem encodeChar_append_lt {c d : Char} (h : c.toNat < d.toNat) (xs ys : Octets) :
    String.utf8EncodeChar c ++ xs < String.utf8EncodeChar d ++ ys := by
  rcases encodeChar_cases c with ⟨hc, ec⟩ | ⟨hc, ec⟩ | ⟨hc, ec⟩ | ⟨hc, ec⟩ <;>
    rcases encodeChar_cases d with ⟨hd, ed⟩ | ⟨hd, ed⟩ | ⟨hd, ed⟩ | ⟨hd, ed⟩ <;>
    rw [ec, ed] <;>
    simp (disch := omega) only [List.cons_append, List.nil_append, List.cons_lt_cons_iff,
      octet_lt_iff, octet_eq_iff, tail_lt_iff, tail_eq_iff] <;>
    omega

theorem append_lt_append_left_iff (l xs ys : Octets) : l ++ xs < l ++ ys ↔ xs < ys := by
  induction l with
  | nil => rfl
  | cons a l ih =>
      rw [List.cons_append, List.cons_append, List.cons_lt_cons_iff, ih]
      simp

theorem encodeChar_append_lt_iff {c d : Char} (xs ys : Octets) :
    String.utf8EncodeChar c ++ xs < String.utf8EncodeChar d ++ ys ↔ c < d ∨ c = d ∧ xs < ys := by
  rcases Nat.lt_trichotomy c.toNat d.toNat with h | h | h
  · exact iff_of_true (encodeChar_append_lt h xs ys) (Or.inl h)
  · obtain rfl : c = d := Char.toNat_inj.mp h
    rw [append_lt_append_left_iff]
    simp
  · refine iff_of_false (List.lt_asymm (encodeChar_append_lt h ys xs)) ?_
    rintro (hc | ⟨rfl, -⟩)
    · exact Nat.lt_asymm h hc
    · exact Nat.lt_irrefl _ h

/-- Texts stand in the order of their octets. -/
theorem encode_lt_encode_iff {cs ds : List Char} : encode cs < encode ds ↔ cs < ds := by
  induction cs generalizing ds with
  | nil =>
      cases ds with
      | nil => exact iff_of_false (List.lt_irrefl _) (List.lt_irrefl _)
      | cons d ds =>
          obtain ⟨a, bs, he, -⟩ := next_encodeChar d
          rw [encode_cons, he]
          exact iff_of_true (List.nil_lt_cons _ _) (List.nil_lt_cons _ _)
  | cons c cs ih =>
      cases ds with
      | nil => exact iff_of_false (List.not_lt_nil _) (List.not_lt_nil _)
      | cons d ds => rw [encode_cons, encode_cons, encodeChar_append_lt_iff, ih, List.cons_lt_cons_iff]

end Streamkeeper.Text.Utf8

namespace Streamkeeper

/-- Strings stand in the order of their octets. -/
theorem octets_lt_octets_iff {s t : String} : octets s < octets t ↔ s < t := by
  rw [octets, octets, Text.Utf8.encode_lt_encode_iff]
  rfl

end Streamkeeper
