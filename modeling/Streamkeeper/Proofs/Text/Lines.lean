import Mathlib.Data.List.TakeWhile
import Streamkeeper.Proofs.Text.Utf8
import Streamkeeper.Text.Lines

/-!
# Lines — what is written line by line is read line by line

Octets are cut at line feeds, one line after the other (`linesFrom_line`), up to a last line without
one (`linesFrom_last`).  A line as it is written (`Written`) has its text and, before the line feed,
possibly a carriage return.  Lines that are written one after the other, with a last one possibly
not terminated, are read as their texts (`WrittenText.texts_lines`), and every text is written so
(`WrittenText.exists_chars`).
-/

namespace Streamkeeper.Text

/-! ### Cutting octets -/

theorem ne_lineFeed {l : Octets} (h : lineFeed ∉ l) : ∀ b ∈ l, (b != lineFeed) = true :=
  fun _ hb => bne_iff_ne.mpr (ne_of_mem_of_not_mem hb h)

theorem linesFrom_line {l : Octets} (h : lineFeed ∉ l) (fuel : Nat) (rest : Octets) :
    linesFrom (fuel + 1) (l ++ lineFeed :: rest) = ⟨l, true⟩ :: linesFrom fuel rest := by
  have ht : (l ++ lineFeed :: rest).takeWhile (· != lineFeed) = l := by
    rw [List.takeWhile_append_of_pos (ne_lineFeed h)]
    simp
  have hd : (l ++ lineFeed :: rest).dropWhile (· != lineFeed) = lineFeed :: rest := by
    rw [List.dropWhile_append_of_pos (ne_lineFeed h)]
    simp
  have hne : l ++ lineFeed :: rest ≠ [] := by simp
  rw [linesFrom, hd, ht]
  exact hne

theorem linesFrom_last {l : Octets} (h : lineFeed ∉ l) (hne : l ≠ []) (fuel : Nat) :
    linesFrom (fuel + 1) l = [⟨l, false⟩] := by
  have hd : l.dropWhile (· != lineFeed) = [] := List.dropWhile_eq_nil_iff.mpr (ne_lineFeed h)
  rw [linesFrom, hd]
  exact hne

theorem linesFrom_nil (fuel : Nat) : linesFrom fuel [] = [] := by
  cases fuel <;> rfl

/-! ### Texts and their line feeds -/

theorem lineFeed_mem_encode_iff {cs : List Char} : lineFeed ∈ Utf8.encode cs ↔ '\n' ∈ cs := by
  rw [Utf8.mem_encode_iff (by decide)]
  refine ⟨?_, fun h => ⟨_, h, rfl⟩⟩
  rintro ⟨c, hc, hn⟩
  have : c = '\n' := by rw [← Char.ofNat_toNat c, hn]; rfl
  exact this ▸ hc

theorem encode_lineFeed (cs : List Char) : Utf8.encode ('\n' :: cs) = lineFeed :: Utf8.encode cs :=
  rfl

theorem encode_line (cs rest : List Char) :
    Utf8.encode (cs ++ '\n' :: rest) = Utf8.encode cs ++ lineFeed :: Utf8.encode rest := by
  rw [Utf8.encode_append, encode_lineFeed]

namespace Line

theorem octets_terminated (cs : List Char) :
    (Line.mk (Utf8.encode cs) true).octets = Utf8.encode (cs ++ ['\n']) := by
  rw [encode_line]
  rfl

/-- A line without a line feed is its text. -/
theorem text?_last {cs : List Char} (h : '\n' ∉ cs) :
    (Line.mk (Utf8.encode cs) false).text? = .ok cs := by
  have hl : ¬cs.getLast? = some '\n' := fun hl => h (List.mem_of_getLast? hl)
  have ho : (Line.mk (Utf8.encode cs) false).octets = Utf8.encode cs := rfl
  rw [text?, ho, Utf8.decode?_encode, Except.map, withoutEnd, if_neg hl]

/-- A line with a line feed, and no carriage return before it, is the text before it. -/
theorem text?_terminated {cs : List Char} (h : cs.getLast? ≠ some '\r') :
    (Line.mk (Utf8.encode cs) true).text? = .ok cs := by
  rw [text?, octets_terminated, Utf8.decode?_encode, Except.map, withoutEnd,
    if_pos List.getLast?_concat, List.dropLast_concat, if_neg h]

/-- One carriage return before the line feed is no part of the text. -/
theorem text?_returned (cs : List Char) :
    (Line.mk (Utf8.encode (cs ++ ['\r'])) true).text? = .ok cs := by
  rw [text?, octets_terminated, Utf8.decode?_encode, Except.map, withoutEnd,
    if_pos List.getLast?_concat, List.dropLast_concat, if_pos List.getLast?_concat,
    List.dropLast_concat]

end Line

/-- A line that someone writes: its text, and whether a carriage return stands before its line feed.
The text has no line feed, and a carriage return at its end would be taken for a part of the end of
the line. -/
structure Written where
  text : List Char
  hasReturn : Bool
  single : '\n' ∉ text
  bare : hasReturn = false → text.getLast? ≠ some '\r'

namespace Written

/-- The characters of a line before its line feed. -/
def body (l : Written) : List Char :=
  if l.hasReturn then l.text ++ ['\r'] else l.text

theorem single_body (l : Written) : '\n' ∉ l.body := by
  unfold body
  split
  · simpa using l.single
  · exact l.single

/-- Every text without a line feed stands before the line feed of a line. -/
theorem exists_body {cs : List Char} (h : '\n' ∉ cs) : ∃ l : Written, l.body = cs := by
  by_cases hr : cs.getLast? = some '\r'
  · obtain ⟨ds, rfl⟩ := List.getLast?_eq_some_iff.mp hr
    have hds : '\n' ∉ ds := fun hd => h (List.mem_append_left _ hd)
    exact ⟨⟨ds, true, hds, fun hf => absurd hf Bool.false_ne_true.symm⟩, rfl⟩
  · exact ⟨⟨cs, false, h, fun _ => hr⟩, rfl⟩

theorem text?_body (l : Written) : (Line.mk (Utf8.encode l.body) true).text? = .ok l.text := by
  cases hr : l.hasReturn with
  | true => rw [body, if_pos hr, Line.text?_returned]
  | false => rw [body, hr, if_neg Bool.false_ne_true, Line.text?_terminated (l.bare hr)]

end Written

/-- Lines, then a last line that is not ended. -/
structure WrittenText where
  lines : List Written
  last : List Char
  unfinished : '\n' ∉ last

namespace WrittenText

/-- The characters of lines, then of a last line. -/
def charsOf (ls : List Written) (last : List Char) : List Char :=
  ls.flatMap (fun l => l.body ++ ['\n']) ++ last

/-- The characters of all lines. -/
def chars (t : WrittenText) : List Char :=
  charsOf t.lines t.last

/-- The texts of all lines; an empty last line is none. -/
def texts (t : WrittenText) : List (List Char) :=
  t.lines.map Written.text ++ if t.last = [] then [] else [t.last]

theorem charsOf_cons (l : Written) (ls : List Written) (last : List Char) :
    charsOf (l :: ls) last = l.body ++ '\n' :: charsOf ls last := by
  simp [charsOf]

/-- Every text is written in lines, the last one possibly not ended. -/
theorem exists_chars (cs : List Char) : ∃ t : WrittenText, t.chars = cs := by
  induction cs with
  | nil => exact ⟨⟨[], [], List.not_mem_nil⟩, rfl⟩
  | cons c cs ih =>
      obtain ⟨⟨ls, last, hlast⟩, rfl⟩ := ih
      by_cases hc : '\n' = c
      · -- a line feed ends an empty line before the others
        obtain ⟨l, hl⟩ := Written.exists_body (List.not_mem_nil (a := '\n'))
        refine ⟨⟨l :: ls, last, hlast⟩, ?_⟩
        rw [chars, charsOf_cons, hl, hc]
        rfl
      · cases ls with
        | nil => exact ⟨⟨[], c :: last, List.not_mem_cons_of_ne_of_not_mem hc hlast⟩, rfl⟩
        | cons l ls =>
            obtain ⟨l', hl'⟩ :=
              Written.exists_body (List.not_mem_cons_of_ne_of_not_mem hc l.single_body)
            refine ⟨⟨l' :: ls, last, hlast⟩, ?_⟩
            rw [chars, chars, charsOf_cons, charsOf_cons, hl']
            rfl

/-- A round takes a line, so as many rounds as octets suffice. -/
theorem texts_linesFrom {last : List Char} (hlast : '\n' ∉ last) (ls : List Written) {fuel : Nat}
    (hf : (Utf8.encode (charsOf ls last)).length ≤ fuel) :
    (linesFrom fuel (Utf8.encode (charsOf ls last))).map Line.text? =
      (ls.map Written.text ++ if last = [] then [] else [last]).map .ok := by
  induction ls generalizing fuel with
  | nil =>
      by_cases e : last = []
      · rw [e]
        exact congrArg (List.map Line.text?) (linesFrom_nil fuel)
      · have hne : Utf8.encode last ≠ [] := fun h => e (Utf8.encode_eq_nil_iff.mp h)
        obtain ⟨k, rfl⟩ : ∃ k, fuel = k + 1 :=
          Nat.exists_eq_add_one.mpr (Nat.lt_of_lt_of_le (List.length_pos_iff.mpr hne) hf)
        have hl : lineFeed ∉ Utf8.encode last := fun h => hlast (lineFeed_mem_encode_iff.mp h)
        simp only [charsOf, List.flatMap_nil, List.nil_append, List.map_nil,
          linesFrom_last hl hne, List.map_cons, Line.text?_last hlast, if_neg e]
  | cons l ls ih =>
      have hb : lineFeed ∉ Utf8.encode l.body :=
        fun hb => l.single_body (lineFeed_mem_encode_iff.mp hb)
      rw [charsOf_cons, encode_line] at hf ⊢
      rw [List.length_append, List.length_cons] at hf
      obtain ⟨k, rfl⟩ : ∃ k, fuel = k + 1 := ⟨fuel - 1, by omega⟩
      rw [linesFrom_line hb, List.map_cons, l.text?_body, ih (by omega)]
      rfl

/-- **Lines are read as they are written.** -/
theorem texts_lines (t : WrittenText) :
    (Text.lines (Utf8.encode t.chars)).map Line.text? = t.texts.map .ok :=
  texts_linesFrom t.unfinished t.lines (Nat.le_refl _)

end WrittenText

end Streamkeeper.Text
