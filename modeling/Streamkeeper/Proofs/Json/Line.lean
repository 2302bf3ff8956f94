import Streamkeeper.Proofs.Decimal
import Streamkeeper.Proofs.Json.Spelling
import Streamkeeper.Proofs.Text.Utf8

/-!
# JSON lines — a value is printed on a single line

`plain_compactText`: no character of the line that the printer gives for a value is a control
character, whatever strings, keys and numbers the value holds.  In particular no line feed and no
carriage return is among them (`singleLine_compact`).
-/

namespace Streamkeeper

namespace Json

/-- No control characters. -/
def Plain (cs : List Char) : Prop :=
  ∀ c ∈ cs, 0x20 ≤ c.toNat

@[simp] theorem plain_nil : Plain [] :=
  fun _ h => absurd h List.not_mem_nil

@[simp] theorem plain_cons {c : Char} {cs : List Char} :
    Plain (c :: cs) ↔ 0x20 ≤ c.toNat ∧ Plain cs :=
  List.forall_mem_cons

@[simp] theorem plain_append {cs ds : List Char} : Plain (cs ++ ds) ↔ Plain cs ∧ Plain ds :=
  List.forall_mem_append

theorem Plain.subset {cs ds : List Char} (h : Plain ds) (hs : cs ⊆ ds) : Plain cs :=
  fun c hc => h c (hs hc)

theorem plain_flatMap {α : Type} {f : α → List Char} {xs : List α} (h : ∀ x ∈ xs, Plain (f x)) :
    Plain (xs.flatMap f) := by
  intro c hc
  obtain ⟨x, hx, hc⟩ := List.mem_flatMap.mp hc
  exact h x hx c hc

theorem plain_commaed {ts : List (List Char)} (h : ∀ t ∈ ts, Plain t) : Plain (commaed ts) := by
  cases ts with
  | nil => exact plain_nil
  | cons t ts =>
      obtain ⟨ht, hts⟩ := List.forall_mem_cons.mp h
      exact plain_append.mpr ⟨ht, plain_flatMap fun t h => plain_cons.mpr ⟨by decide, hts t h⟩⟩

theorem plain_ite {p : Prop} [Decidable p] {cs ds : List Char} (h₁ : p → Plain cs)
    (h₂ : ¬p → Plain ds) : Plain (if p then cs else ds) := by
  split
  · exact h₁ ‹p›
  · exact h₂ ‹¬p›

/-! ### Strings -/

theorem plain_digitChar : ∀ n < 16, 0x20 ≤ (Nat.digitChar n).toNat := by
  decide

theorem plain_controlEscape {c : Char} (h : c.toNat < 0x20) : Plain (controlEscape c) := by
  have hhigh := plain_digitChar (c.toNat / 16) (by omega)
  have hlow := plain_digitChar (c.toNat % 16) (by omega)
  simp [controlEscape, hhigh, hlow]

theorem plain_escapeChar (c : Char) : Plain (escapeChar c) := by
  unfold escapeChar
  -- the characters with an escape of two, then the two that are left
  iterate 7 refine plain_ite (fun _ => by simp) fun _ => ?_
  refine plain_ite (fun hc => plain_controlEscape hc) fun hc => ?_
  exact plain_cons.mpr ⟨Nat.le_of_not_lt hc, plain_nil⟩

theorem plain_stringText (s : String) : Plain (stringText s) := by
  have h : Plain (s.toList.flatMap escapeChar) := plain_flatMap fun c _ => plain_escapeChar c
  simp [stringText, h]

/-! ### Numbers -/

theorem plain_of_isDigit {cs : List Char} (h : ∀ c ∈ cs, c.isDigit = true) : Plain cs := by
  intro c hc
  have hd := Decimal.toNat_of_isDigit (h c hc)
  omega

theorem plain_digits (n : Nat) : Plain (Decimal.digits n) :=
  plain_of_isDigit fun _ => Decimal.isDigit_of_mem_digits

theorem plain_replicate_zero (n : Nat) : Plain (List.replicate n '0') := by
  intro c hc
  rw [(List.mem_replicate.mp hc).2]
  decide

theorem plain_dropZeros {cs : List Char} (h : Plain cs) : Plain (Decimal.Shortest.dropZeros cs) :=
  h.subset fun _ hc =>
    List.mem_reverse.mp ((List.dropWhile_sublist _).subset (List.mem_reverse.mp hc))

theorem plain_search (i : Decimal.Shortest.Interval) (point : Int) (fuel n : Nat) :
    Plain (Decimal.Shortest.search i point fuel n).digits := by
  induction fuel generalizing n with
  | zero => exact plain_nil
  | succ fuel ih =>
      rw [Decimal.Shortest.search]
      split
      · exact plain_dropZeros (plain_digits _)
      · exact ih (n + 1)

theorem plain_shortest (bits : UInt64) : Plain (Decimal.Shortest.ofBits bits).digits := by
  have hs : ∃ m i point, Decimal.Shortest.ofBits bits =
      if m = 0 then ⟨[], 0⟩ else Decimal.Shortest.search i point 17 1 := ⟨_, _, _, rfl⟩
  obtain ⟨m, i, point, hs⟩ := hs
  rw [hs]
  split
  · exact plain_nil
  · exact plain_search i point 17 1

theorem plain_positional {s : Decimal.Shortest} (h : Plain s.digits) :
    Plain (Decimal.positional s) := by
  have ht := h.subset (List.take_subset s.point.toNat s.digits)
  have hd := h.subset (List.drop_subset s.point.toNat s.digits)
  refine plain_ite (fun _ => by simp) fun _ => plain_ite (fun _ => ?_) fun _ =>
    plain_ite (fun _ => ?_) fun _ => ?_
  · simp [h, plain_replicate_zero]
  · simp [h, plain_replicate_zero]
  · simp [ht, hd]

theorem plain_scientific {s : Decimal.Shortest} (h : Plain s.digits) :
    Plain (Decimal.scientific s) := by
  have hexp :
      Plain ((if s.point - 1 < 0 then '-' else '+') :: Decimal.digits (s.point - 1).natAbs) :=
    plain_cons.mpr ⟨by split <;> decide, plain_digits _⟩
  refine plain_append.mpr ⟨?_, plain_cons.mpr ⟨by decide, hexp⟩⟩
  split
  · simp
  · rename_i d hd
    exact hd ▸ h
  · rename_i d ds _ hd
    rw [hd, plain_cons] at h
    simp [h]

theorem plain_realText (bits : UInt64) : Plain (realText bits) := by
  have hs := plain_shortest bits
  have h := plain_ite (p := (Decimal.Shortest.ofBits bits).digits = [] ∨
    (-5 < (Decimal.Shortest.ofBits bits).point ∧ (Decimal.Shortest.ofBits bits).point ≤ 16))
    (fun _ => plain_positional hs) (fun _ => plain_scientific hs)
  exact plain_ite (fun _ => plain_cons.mpr ⟨by decide, h⟩) fun _ => h

theorem plain_numberText (n : Number) : Plain (numberText n) := by
  cases n with
  | int n =>
      exact plain_ite (fun _ => plain_cons.mpr ⟨by decide, plain_digits _⟩) fun _ => plain_digits _
  | real bits => exact plain_realText bits

/-! ### Values -/

/-- **A value is printed without control characters.** -/
theorem plain_compactText (v : Json) : Plain v.compactText := by
  induction v using Json.induction with
  | null => simp [compactText]
  | bool b => cases b <;> simp [compactText, boolText]
  | number n => exact plain_numberText n
  | string s => exact plain_stringText s
  | array items ih =>
      have h := plain_commaed (List.forall_mem_map.mpr ih)
      rw [compactText, compactItems_eq]
      simp [h]
  | object ms ih =>
      have h : Plain (commaed (ms.map fun m => (WrittenMember.ofMember m).chars)) :=
        plain_commaed (List.forall_mem_map.mpr fun m hm => by
          simp [WrittenMember.chars, WrittenMember.ofMember, plain_stringText, ih m hm])
      rw [compactText, compactMembers_eq]
      simp [h]

theorem not_mem_compactText {c : Char} (h : c.toNat < 0x20) (v : Json) : c ∉ v.compactText :=
  fun hc => Nat.not_lt.mpr (plain_compactText v c hc) h

@[simp] theorem toList_compact (v : Json) : v.compact.toList = v.compactText :=
  String.toList_ofList

/-- A value and the line feed after it. -/
theorem toList_line (v : Json) : (v.compact ++ "\n").toList = v.compactText ++ ['\n'] := by
  rw [String.toList_append, toList_compact]
  rfl

end Json

/-- No octet of a text is a line feed or a carriage return. -/
def SingleLine (s : String) : Prop :=
  (10 : UInt8) ∉ octets s ∧ (13 : UInt8) ∉ octets s

theorem singleLine_compact (v : Json) : SingleLine v.compact := by
  have visible : ∀ b : UInt8, b < 0x20 → b ∉ octets v.compact := by
    intro b hb hmem
    have hb' : b < 0x80 := UInt8.lt_trans hb (by decide)
    obtain ⟨c, hc, hn⟩ := (Text.Utf8.mem_encode_iff hb').mp hmem
    rw [Json.toList_compact] at hc
    refine Json.not_mem_compactText ?_ v hc
    rw [hn]
    exact UInt8.lt_iff_toNat_lt.mp hb
  exact ⟨visible 10 (by decide), visible 13 (by decide)⟩

end Streamkeeper
