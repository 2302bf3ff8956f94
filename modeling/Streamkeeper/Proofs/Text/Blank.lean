import Mathlib.Data.List.DropRight
import Streamkeeper.Text.Blank

/-!
# Blanks — what trimming takes away

Trimming by a class of characters leaves a text that ends with none of them (`trimEnd_trim`), and so
does every end of that text (`trimEnd_of_suffix`).  A text that ends so is what is left of it with
blanks in front (`exists_gap`), and blanks in front of a word without any are what trimming takes
away (`trim_append`).

`Stripped` says without the function what trimming leaves, and `stripped_iff` that there is one such
text.
-/

namespace Streamkeeper.Text

/-- No blank is among the digits and the letters of ASCII. -/
theorem toNat_of_isBlank {c : Char} (h : isBlank c = true) :
    c.toNat < 48 ∨ 122 < c.toNat := by
  simp only [isBlank, Bool.or_eq_true, Bool.and_eq_true, decide_eq_true_eq, beq_iff_eq] at h
  omega

variable {p : Char → Bool}

theorem trimEnd_eq_self_iff {cs : List Char} :
    trimEnd p cs = cs ↔ ∀ hne : cs ≠ [], ¬ p (cs.getLast hne) = true :=
  List.rdropWhile_eq_self_iff

/-- What is trimmed ends with no character of the class. -/
theorem trimEnd_trim (cs : List Char) : trimEnd p (trim p cs) = trim p cs :=
  List.rdropWhile_idempotent p (trimStart p cs)

/-- An end of a text ends as the text does. -/
theorem trimEnd_of_suffix {cs ds : List Char} (h : trimEnd p cs = cs) (hs : ds <:+ cs) :
    trimEnd p ds = ds := by
  rw [trimEnd_eq_self_iff] at h ⊢
  intro hne
  have hcs : cs ≠ [] := fun hnil => hne (List.suffix_nil.mp (hnil ▸ hs))
  rw [hs.getLast hne]
  exact h hcs

theorem trimEnd_of_forall {cs : List Char} (h : ∀ c ∈ cs, p c = false) : trimEnd p cs = cs :=
  trimEnd_eq_self_iff.mpr fun hne => by simp [h _ (List.getLast_mem hne)]

/-- Nothing is trimmed of a word without characters of the class but what stands before it. -/
theorem trim_append {gap word : List Char} (hgap : ∀ c ∈ gap, p c = true)
    (hword : ∀ c ∈ word, p c = false) : trim p (gap ++ word) = word := by
  have hstart : trimStart p (gap ++ word) = word := by
    rw [trimStart, List.dropWhile_append_of_pos hgap]
    cases word with
    | nil => rfl
    | cons c word => exact List.dropWhile_cons_of_neg (by simp [hword c List.mem_cons_self])
  rw [trim, hstart, trimEnd_of_forall hword]

theorem trim_of_forall {word : List Char} (hword : ∀ c ∈ word, p c = false) :
    trim p word = word :=
  trim_append (List.forall_mem_nil (p · = true)) hword

/-- A text that ends with no character of the class has such characters in front alone. -/
theorem exists_gap {cs : List Char} (h : trimEnd p cs = cs) :
    ∃ gap, cs = gap ++ trim p cs ∧ ∀ c ∈ gap, p c = true := by
  have hstart : trim p cs = trimStart p cs :=
    trimEnd_of_suffix h (List.dropWhile_suffix p)
  refine ⟨cs.takeWhile p, ?_, fun c hc => List.mem_takeWhile_imp hc⟩
  rw [hstart, trimStart, List.takeWhile_append_dropWhile]

/-! ### What trimming leaves -/

/-- A text without the characters of the class that stand before and after it. -/
structure Stripped (p : Char → Bool) (cs ds : List Char) : Prop where
  between : ∃ before after, cs = before ++ (ds ++ after) ∧ (∀ c ∈ before, p c = true) ∧
    ∀ c ∈ after, p c = true
  first : ∀ c ∈ ds.head?, p c = false
  last : ∀ c ∈ ds.getLast?, p c = false

theorem stripped_trim (cs : List Char) : Stripped p cs (trim p cs) := by
  have hend : trim p cs ++ List.rtakeWhile p (trimStart p cs) = trimStart p cs :=
    List.rdropWhile_append_rtakeWhile
  refine ⟨⟨cs.takeWhile p, List.rtakeWhile p (trimStart p cs), ?_, ?_, ?_⟩, ?_, ?_⟩
  · rw [hend, trimStart, List.takeWhile_append_dropWhile]
  · exact fun c hc => List.mem_takeWhile_imp hc
  · exact fun c hc => List.mem_rtakeWhile_imp hc
  · intro c hc
    -- the text that is left begins where blanks ended
    have hstart : c ∈ (cs.dropWhile p).head? := by
      have hhead : (trim p cs ++ List.rtakeWhile p (trimStart p cs)).head? = (trim p cs).head? :=
        List.head?_append_of_ne_nil _ fun hnil => by simp [hnil] at hc
      rw [hend, trimStart] at hhead
      rwa [hhead]
    have hdrop := List.head?_dropWhile_not p cs
    rw [Option.mem_def.mp hstart] at hdrop
    simpa using hdrop
  · intro c hc
    obtain ⟨hne, rfl⟩ := List.mem_getLast?_eq_getLast hc
    exact Bool.eq_false_iff.mpr (trimEnd_eq_self_iff.mp (trimEnd_trim cs) hne)

/-- Trimming leaves the one text that is stripped. -/
theorem stripped_iff {cs ds : List Char} : Stripped p cs ds ↔ ds = trim p cs := by
  refine ⟨?_, fun h => h ▸ stripped_trim cs⟩
  rintro ⟨⟨before, after, rfl, hbefore, hafter⟩, hfirst, hlast⟩
  have hstart : trimStart p (before ++ (ds ++ after)) = trimStart p (ds ++ after) :=
    List.dropWhile_append_of_pos hbefore
  rw [trim, hstart]
  cases ds with
  | nil =>
      have hnil : trimStart p ([] ++ after) = [] := List.dropWhile_eq_nil_iff.mpr hafter
      rw [hnil]
      rfl
  | cons d ds =>
      have hd : trimStart p (d :: ds ++ after) = d :: ds ++ after :=
        List.dropWhile_cons_of_neg (by simp [hfirst d rfl])
      have hkeep : trimEnd p (d :: ds) = d :: ds :=
        trimEnd_eq_self_iff.mpr fun hne => by simp [hlast _ (List.getLast_mem_getLast? hne)]
      have hrest : trimEnd p (d :: ds ++ after) = trimEnd p (d :: ds) := by
        rw [trimEnd, List.reverse_append,
          List.dropWhile_append_of_pos fun c hc => hafter c (List.mem_reverse.mp hc), trimEnd]
      rw [hd, hrest, hkeep]

end Streamkeeper.Text
