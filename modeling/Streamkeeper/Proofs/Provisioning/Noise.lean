import Streamkeeper.Proofs.Provisioning.Report
import Streamkeeper.Proofs.Text.Blank

/-!
# Noise — what the value of a key does not depend on

An output may hold any lines beside those of a key.  The value of a key comes from the first line
that starts with the key and a colon, so it depends neither on the lines that do not start so,
wherever they are put in or left out (`value?_inserted`), nor on anything after that line
(`value?_append`).

`value_reads` says so beside what the value is: what follows the colon, without the spaces around
it.  A line with spaces alone after the colon has the empty value, and that is not the answer for an
output without such a line.
-/

namespace Streamkeeper.Provisioning

variable {key : List Char}

/-- No line of a text starts with the key and a colon. -/
def Silent (key text : List Char) : Prop :=
  ∀ line ∈ lines text, ¬ key ++ [':'] <+: line

/-- The second text is the first one with the lines of `noise` put in: before its first line,
between two of its lines, or after its last line. -/
inductive Inserted (noise : List Char) : List Char → List Char → Prop
  | before (text : List Char) : Inserted noise text (noise ++ '\n' :: text)
  | between (front back : List Char) :
      Inserted noise (front ++ '\n' :: back) (front ++ '\n' :: (noise ++ '\n' :: back))
  | after (text : List Char) : Inserted noise text (text ++ '\n' :: noise)

/-- A line feed ends the lines before it. -/
theorem lines_append (front back : List Char) :
    lines (front ++ '\n' :: back) = lines front ++ lines back :=
  List.splitOn_append_cons_self front back

/-- The value of a key, from what its first line leaves. -/
theorem value?_eq_map (text key : List Char) : value? text key =
    ((lines text).findSome? (afterKey? key)).map (Text.trim Text.isOutputSpace) := rfl

/-- A silent text has no line of the key. -/
theorem silent_iff {text : List Char} :
    Silent key text ↔ (lines text).findSome? (afterKey? key) = none := by
  rw [List.findSome?_eq_none_iff]
  exact forall₂_congr fun line _ => afterKey?_eq_none_iff.symm

/-- Only a silent text has no value. -/
theorem value?_eq_none_iff_silent {text : List Char} : value? text key = none ↔ Silent key text := by
  rw [value?_eq_map, Option.map_eq_none_iff, silent_iff]

/-- Silent lines do not change the value, wherever they are put in. -/
theorem value?_inserted {noise text text' : List Char} (hnoise : Silent key noise)
    (h : Inserted noise text text') : value? text' key = value? text key := by
  rw [silent_iff] at hnoise
  cases h with
  | before =>
      rw [value?_eq_map, lines_append, List.findSome?_append, hnoise, Option.none_or, value?_eq_map]
  | between front back =>
      simp only [value?_eq_map, lines_append, List.findSome?_append, hnoise, Option.none_or]
  | after =>
      rw [value?_eq_map, lines_append, List.findSome?_append, hnoise, Option.or_none, value?_eq_map]

/-- What comes after the lines of a text that has a value does not change the value. -/
theorem value?_append {front : List Char} (hfront : ¬ Silent key front) (back : List Char) :
    value? (front ++ '\n' :: back) key = value? front key := by
  rw [silent_iff] at hfront
  obtain ⟨rest, hrest⟩ := Option.ne_none_iff_exists'.mp hfront
  rw [value?_eq_map, lines_append, List.findSome?_append, hrest, Option.some_or, value?_eq_map,
    hrest]

/-- Nothing is left of a text exactly if it is made of characters of the class. -/
theorem trim_outputSpace_eq_nil_iff {cs : List Char} :
    Text.trim Text.isOutputSpace cs = [] ↔ ∀ c ∈ cs, Text.isOutputSpace c = true := by
  rw [eq_comm, ← Text.stripped_iff]
  constructor
  · rintro ⟨⟨before, after, rfl, hbefore, hafter⟩, -, -⟩
    exact List.forall_mem_append.mpr ⟨hbefore, hafter⟩
  · exact fun h => ⟨⟨cs, [], by simp, h, List.forall_mem_nil _⟩, by simp, by simp⟩

/-- **The value of a key comes from its first line and from nothing else.**  It is what follows the
colon there, stripped of the spaces around it, and there is none exactly if no line starts with the
key and a colon.  Lines that do not start so may be put in anywhere, and be left out again; what
stands after the first line of the key may be anything.  A line of the key with spaces alone after
the colon has the empty value. -/
theorem value_reads (key : List Char) :
    (∀ text v, value? text key = some v ↔
      ∃ rest, FirstLine text key rest ∧ Text.Stripped Text.isOutputSpace rest v) ∧
    (∀ text, value? text key = none ↔ Silent key text) ∧
    (∀ noise text text', Silent key noise → Inserted noise text text' →
      value? text' key = value? text key) ∧
    (∀ front back, ¬ Silent key front → value? (front ++ '\n' :: back) key = value? front key) ∧
    ∀ text, value? text key = some [] ↔
      ∃ rest, FirstLine text key rest ∧ ∀ c ∈ rest, Text.isOutputSpace c = true := by
  have hvalue : ∀ text v, value? text key = some v ↔
      ∃ rest, FirstLine text key rest ∧ Text.Stripped Text.isOutputSpace rest v := by
    intro text v
    rw [value?_eq_some_iff]
    exact exists_congr fun rest => and_congr_right' Text.stripped_iff.symm
  refine ⟨hvalue, fun text => value?_eq_none_iff_silent, ?_, ?_, fun text => ?_⟩
  · exact fun noise text text' hnoise h => value?_inserted hnoise h
  · exact fun front back hfront => value?_append hfront back
  · rw [hvalue]
    refine exists_congr fun rest => and_congr_right' ?_
    rw [Text.stripped_iff, eq_comm, trim_outputSpace_eq_nil_iff]

end Streamkeeper.Provisioning
