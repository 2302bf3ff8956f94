import Streamkeeper.Proofs.Decimal
import Streamkeeper.Proofs.Options.Loading
import Streamkeeper.Proofs.Text.Blank

/-!
# Options — the texts that are sizes

A size is written with digits, blanks, and a unit: a letter or none, in either case, and any number
of letters `B` behind it (`Spelling`).  Reading trims the text, takes the digits off its front and
looks at what is left without its blanks and its letters `B`; since digits, blanks and units have no
character in common, this gives the parts back (`sizeText_iff`).

`sizes_read` says which texts are sizes and of what number, and that a capacity may be given by its
digits as well as by its number.
-/

namespace Streamkeeper.Options

/-! ### Units -/

/-- The letters of the units, and the power of two that each stands for. -/
def units : List (List Char × Nat) :=
  [([], 0), (['K'], 10), (['M'], 20), (['G'], 30), (['T'], 40)]

/-- `unit` is a unit's letter and any number of letters `B`, in either case. -/
def UnitSpelling (unit : List Char) (shift : Nat) : Prop :=
  ∃ letter k, (letter, shift) ∈ units ∧ unit.map Char.toUpper = letter ++ List.replicate k 'B'

theorem units_cases {letter : List Char} {shift : Nat} (h : (letter, shift) ∈ units) :
    letter = [] ∧ shift = 0 ∨ letter = ['K'] ∧ shift = 10 ∨ letter = ['M'] ∧ shift = 20 ∨
      letter = ['G'] ∧ shift = 30 ∨ letter = ['T'] ∧ shift = 40 := by
  simpa [units] using h

/-- The letters `B` behind a unit's letter are taken away, and no other. -/
theorem trimEnd_letter {letter : List Char} {shift : Nat} (h : (letter, shift) ∈ units) (k : Nat) :
    Text.trimEnd (· == 'B') (letter ++ List.replicate k 'B') = letter := by
  rw [Text.trimEnd, List.reverse_append, List.reverse_replicate, List.dropWhile_append_of_pos]
  · rcases units_cases h with ⟨rfl, -⟩ | ⟨rfl, -⟩ | ⟨rfl, -⟩ | ⟨rfl, -⟩ | ⟨rfl, -⟩ <;> rfl
  · intro c hc
    rw [List.eq_of_mem_replicate hc]
    rfl

/-- What is taken away at the end of a text are letters `B`. -/
theorem exists_eq_trimEnd_append (cs : List Char) :
    ∃ k, cs = Text.trimEnd (· == 'B') cs ++ List.replicate k 'B' := by
  refine ⟨(cs.rtakeWhile (· == 'B')).length, ?_⟩
  have hall : ∀ c ∈ cs.rtakeWhile (· == 'B'), c = 'B' := by
    intro c hc
    simpa using List.mem_rtakeWhile_imp hc
  rw [← List.eq_replicate_of_mem hall]
  exact (List.rdropWhile_append_rtakeWhile).symm

/-- A unit is found exactly if one is spelled between the blanks. -/
theorem unitShift?_eq_some_iff {cs : List Char} {shift : Nat} :
    unitShift? cs = some shift ↔ UnitSpelling (Text.trim Text.isBlank cs) shift := by
  constructor
  · intro h
    obtain ⟨k, hk⟩ := exists_eq_trimEnd_append ((Text.trim Text.isBlank cs).map Char.toUpper)
    refine ⟨_, k, ?_, hk⟩
    unfold unitShift? at h
    generalize Text.trimEnd _ _ = letter at h ⊢
    split at h <;> cases h <;> simp [units]
  · rintro ⟨letter, k, hmem, hunit⟩
    rw [unitShift?, hunit, trimEnd_letter hmem]
    rcases units_cases hmem with ⟨rfl, rfl⟩ | ⟨rfl, rfl⟩ | ⟨rfl, rfl⟩ | ⟨rfl, rfl⟩ | ⟨rfl, rfl⟩ <;>
      rfl

/-! ### Digits, blanks and units have no character in common -/

theorem toUpper_eq_self {c : Char} (h : c.toNat < 97 ∨ 122 < c.toNat) : c.toUpper = c := by
  refine dif_neg ?_
  rintro ⟨ha, hz⟩
  have hlow : 97 ≤ c.toNat := UInt32.le_iff_toNat_le.mp ha
  have hhigh : c.toNat ≤ 122 := UInt32.le_iff_toNat_le.mp hz
  omega

theorem toUpper_mem_of_unitSpelling {unit : List Char} {shift : Nat} (h : UnitSpelling unit shift)
    {c : Char} (hc : c ∈ unit) : c.toUpper ∈ ['K', 'M', 'G', 'T', 'B'] := by
  obtain ⟨letter, k, hmem, hunit⟩ := h
  have hup : c.toUpper ∈ letter ++ List.replicate k 'B' := by
    rw [← hunit]
    exact List.mem_map_of_mem hc
  rcases List.mem_append.mp hup with hl | hb
  · rcases units_cases hmem with ⟨rfl, -⟩ | ⟨rfl, -⟩ | ⟨rfl, -⟩ | ⟨rfl, -⟩ | ⟨rfl, -⟩ <;>
      simp_all
  · simp [List.eq_of_mem_replicate hb]

/-- A class without the letters of units, and without any small letter, has no character of a
unit. -/
theorem eq_false_of_unitSpelling {p : Char → Bool} {unit : List Char} {shift : Nat}
    (h : UnitSpelling unit shift) (hletters : ∀ d ∈ ['K', 'M', 'G', 'T', 'B'], p d = false)
    (hsmall : ∀ c, p c = true → c.toNat < 97 ∨ 122 < c.toNat) : ∀ c ∈ unit, p c = false := by
  intro c hc
  by_contra hp
  rw [Bool.not_eq_false] at hp
  -- no small letter: in upper case it is the same character
  have hup : p c.toUpper = false := hletters _ (toUpper_mem_of_unitSpelling h hc)
  rw [toUpper_eq_self (hsmall c hp), hp] at hup
  cases hup

theorem isDigit_eq_false_of_unitSpelling {unit : List Char} {shift : Nat}
    (h : UnitSpelling unit shift) : ∀ c ∈ unit, c.isDigit = false := by
  refine eq_false_of_unitSpelling h ?_ fun c hc => ?_
  · simp only [List.forall_mem_cons]
    exact ⟨rfl, rfl, rfl, rfl, rfl, List.forall_mem_nil _⟩
  · have hrange := Decimal.toNat_of_isDigit hc
    omega

theorem isBlank_eq_false_of_unitSpelling {unit : List Char} {shift : Nat}
    (h : UnitSpelling unit shift) : ∀ c ∈ unit, Text.isBlank c = false := by
  refine eq_false_of_unitSpelling h ?_ fun c hc => ?_
  · simp only [List.forall_mem_cons]
    exact ⟨rfl, rfl, rfl, rfl, rfl, List.forall_mem_nil _⟩
  · have hrange := Text.toNat_of_isBlank hc
    omega

theorem isDigit_eq_false_of_isBlank {c : Char} (h : Text.isBlank c = true) :
    c.isDigit = false := by
  have hblank := Text.toNat_of_isBlank h
  by_contra hdigit
  have hrange := Decimal.toNat_of_isDigit (Bool.eq_true_of_not_eq_false hdigit)
  omega

/-! ### Sizes -/

/-- A trimmed text is a size: digits, blanks, and a unit for the shift. -/
def Spelling (cs digits : List Char) (shift : Nat) : Prop :=
  ∃ gap unit, cs = digits ++ gap ++ unit ∧ digits ≠ [] ∧ (∀ c ∈ digits, c.isDigit = true) ∧
    (∀ c ∈ gap, Text.isBlank c = true) ∧ UnitSpelling unit shift

/-- The parts of a size are found again. -/
theorem sizeText_iff {s : String} {n : Nat} :
    SizeText s n ↔ ∃ digits shift, Spelling (Text.trim Text.isBlank s.toList) digits shift ∧
      n = Decimal.value digits * 2 ^ shift := by
  generalize hcs : Text.trim Text.isBlank s.toList = cs
  have hend : Text.trimEnd Text.isBlank cs = cs := hcs ▸ Text.trimEnd_trim s.toList
  simp only [SizeText, hcs, Decimal.split_eq_iff, unitShift?_eq_some_iff]
  constructor
  · rintro ⟨digits, rest, shift, hrun, hne, hunit, hn⟩
    -- What follows the digits ends as the trimmed text does: it has blanks in front alone.
    have hsuffix : rest <:+ cs := ⟨digits, hrun.text.symm⟩
    obtain ⟨gap, hrest, hgap⟩ := Text.exists_gap (Text.trimEnd_of_suffix hend hsuffix)
    refine ⟨digits, shift, ⟨gap, _, ?_, hne, hrun.digits, hgap, hunit⟩, hn⟩
    rw [List.append_assoc, ← hrest]
    exact hrun.text
  · rintro ⟨digits, shift, ⟨gap, unit, htext, hne, hdigits, hgap, hunit⟩, hn⟩
    -- Neither a blank nor a unit begins with a digit, so the digits are all of the front run.
    refine ⟨digits, gap ++ unit, shift, ⟨?_, hdigits, ?_⟩, hne, ?_, hn⟩
    · rw [htext, List.append_assoc]
    · intro c hc
      rcases List.mem_append.mp (List.mem_of_mem_head? hc) with hc | hc
      · exact isDigit_eq_false_of_isBlank (hgap c hc)
      · exact isDigit_eq_false_of_unitSpelling hunit c hc
    · rwa [Text.trim_append hgap (isBlank_eq_false_of_unitSpelling hunit)]

theorem parseSize_iff_spelling {s : String} {n : Nat} :
    parseSize s = .ok n ↔ ∃ digits shift,
      Spelling (Text.trim Text.isBlank s.toList) digits shift ∧ Decimal.value digits < 2 ^ 64 ∧
        Decimal.value digits * 2 ^ shift < 2 ^ 64 ∧ n = Decimal.value digits * 2 ^ shift := by
  rw [parseSize_eq_ok_iff, sizeText_iff]
  constructor
  · rintro ⟨⟨digits, shift, hs, rfl⟩, hlt⟩
    have hle : Decimal.value digits ≤ Decimal.value digits * 2 ^ shift :=
      Nat.le_mul_of_pos_right _ (Nat.two_pow_pos shift)
    exact ⟨digits, shift, hs, Nat.lt_of_le_of_lt hle hlt, hlt, rfl⟩
  · rintro ⟨digits, shift, hs, -, hlt, rfl⟩
    exact ⟨⟨digits, shift, hs, rfl⟩, hlt⟩

/-- A number is read from its digits. -/
theorem parseSize_text {n : Nat} (h : n < 2 ^ 64) : parseSize (Decimal.text n) = .ok n := by
  have hdigits : ∀ c ∈ Decimal.digits n, c.isDigit = true := fun _ => Decimal.isDigit_of_mem_digits
  have htrim : Text.trim Text.isBlank (Decimal.text n).toList = Decimal.digits n := by
    rw [Decimal.text, String.toList_ofList]
    refine Text.trim_of_forall fun c hc => ?_
    by_contra hblank
    rw [Bool.not_eq_false] at hblank
    exact Bool.false_ne_true ((isDigit_eq_false_of_isBlank hblank).symm.trans (hdigits c hc))
  rw [parseSize_iff_spelling, htrim]
  refine ⟨Decimal.digits n, 0, ?_, by simpa using h, by simpa using h, by simp⟩
  refine ⟨[], [], by simp, Decimal.digits_ne_nil n, hdigits, fun _ hc => ?_, [], 0, ?_, rfl⟩
  · cases hc
  · exact List.mem_cons_self

theorem setNamed_cacheCapacity {o : Options} {v : Json} {n : Nat} (h : readSize v = .ok n) :
    o.setNamed "cache_capacity" v = .ok (o.updateSession ({ · with cacheCapacity := n })) := by
  have hkey : Key.ofName? "cache_capacity" = some .cacheCapacity :=
    Key.ofName?_name .cacheCapacity
  have hset : o.setNamed "cache_capacity" v = o.set .cacheCapacity v := by rw [setNamed, hkey]
  rw [hset, set, h]
  rfl

/-- **The texts that are sizes.**  A text is read as a size exactly if it is, without the blanks
around it, a run of digits with a number below 2^64, blanks, and a unit, and the number of units
is below 2^64 too; the size is that number of units, to the last octet.  Every other text is
refused.  A capacity is read alike from its number and from the digits of it. -/
theorem sizes_read :
    (∀ s n, parseSize s = .ok n ↔ ∃ digits shift,
      Spelling (Text.trim Text.isBlank s.toList) digits shift ∧ Decimal.value digits < 2 ^ 64 ∧
        Decimal.value digits * 2 ^ shift < 2 ^ 64 ∧ n = Decimal.value digits * 2 ^ shift) ∧
      (∀ s, (∀ digits shift, Spelling (Text.trim Text.isBlank s.toList) digits shift →
          2 ^ 64 ≤ Decimal.value digits * 2 ^ shift) → ∃ e, parseSize s = .error e) ∧
      ∀ (o : Options) (n : Nat), n < 2 ^ 64 →
        o.setNamed "cache_capacity" (.nat n) =
            .ok (o.updateSession ({ · with cacheCapacity := n })) ∧
          o.setNamed "cache_capacity" (.string (Decimal.text n)) =
            .ok (o.updateSession ({ · with cacheCapacity := n })) := by
  refine ⟨fun s n => parseSize_iff_spelling, ?_, ?_⟩
  · intro s h
    rcases hs : parseSize s with e | n
    · exact ⟨e, rfl⟩
    · obtain ⟨digits, shift, hspelling, -, hlt, -⟩ := parseSize_iff_spelling.mp hs
      exact absurd hlt (Nat.not_lt.mpr (h digits shift hspelling))
  · intro o n hn
    have hnumber : readSize (.nat n) = .ok n := readSize_eq_ok_iff.mpr ⟨.inl rfl, hn⟩
    have htext : readSize (.string (Decimal.text n)) = .ok n := by
      rw [readSize, parseSize_text hn]
      rfl
    exact ⟨setNamed_cacheCapacity hnumber, setNamed_cacheCapacity htext⟩

end Streamkeeper.Options
