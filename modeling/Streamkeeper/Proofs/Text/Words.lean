import Mathlib.Data.List.Basic
import Streamkeeper.Text.Quoted

/-!
# Words — a command line is read back as the words that it was made of

A reader of command lines goes through the characters once (`readFrom`).  It stands in front of a
word, in a word without quotes, between quotes, behind a backslash there, or behind the closing
quote (`Stance`).  A space ends a word, and outside of quotes nothing else has a meaning.

That serves for all words: a word that is written as it is has no space in it and does not begin
with a quote (`readFrom_bare`), and between quotes every quote and backslash of the word has a
backslash before it (`readFrom_escape`).  So whatever the words are, the line of them is read back
(`readWords_words`), and so is every word that is put between quotes (`unquote_encode`).
-/

namespace Streamkeeper.Text.Quoted

/-! ### A reader of command lines -/

/-- Where a reader of a command line stands. -/
inductive Stance where
  | front
  | bare
  | quoted
  | escaped
  | closed

/-- What is left of the word in which the reader stands, and the words after it. -/
abbrev Reading := Option (List Char × List (List Char))

namespace Reading

/-- Characters of the word come before what is left of it. -/
def push (cs : List Char) (r : Reading) : Reading :=
  r.map fun p => (cs ++ p.1, p.2)

/-- The word ends and another one begins. -/
def next (r : Reading) : Reading :=
  r.map fun p => ([], p.1 :: p.2)

theorem push_push (cs ds : List Char) (r : Reading) : (r.push ds).push cs = r.push (cs ++ ds) := by
  cases r with
  | none => rfl
  | some p => simp [push]

end Reading

/-- Reads a command line from where the reader stands. -/
def readFrom : Stance → List Char → Reading
  | .bare, [] => some ([], [])
  | .closed, [] => some ([], [])
  | _, [] => none
  | .front, c :: cs => if c = '"' then readFrom .quoted cs else (readFrom .bare cs).push [c]
  | .bare, c :: cs => if c = ' ' then (readFrom .front cs).next else (readFrom .bare cs).push [c]
  | .quoted, c :: cs =>
    if c = '"' then readFrom .closed cs
    else if c = '\\' then readFrom .escaped cs
    else (readFrom .quoted cs).push [c]
  | .escaped, c :: cs => (readFrom .quoted cs).push [c]
  | .closed, c :: cs => if c = ' ' then (readFrom .front cs).next else none

/-- Reads words that have a space before each. -/
def readWords : List Char → Option (List (List Char))
  | [] => some []
  | c :: cs => if c = ' ' then (readFrom .front cs).map fun p => p.1 :: p.2 else none

/-- Reads a text that is one word. -/
def unquote (cs : List Char) : Option (List Char) :=
  match readFrom .front cs with
  | some (word, []) => some word
  | _ => none

/-! ### Words are read back -/

/-- Outside of quotes a word goes on up to a space. -/
theorem readFrom_bare {word : List Char} (h : ' ' ∉ word) (rest : List Char) :
    readFrom .bare (word ++ rest) = (readFrom .bare rest).push word := by
  induction word with
  | nil => cases hr : readFrom .bare rest <;> simp [hr, Reading.push]
  | cons c word ih =>
      have hc : c ≠ ' ' := (List.ne_of_not_mem_cons h).symm
      rw [List.cons_append, readFrom, if_neg hc, ih (List.not_mem_of_not_mem_cons h),
        Reading.push_push]
      rfl

/-- Between quotes a word goes on up to a quote without a backslash before it. -/
theorem readFrom_escape (word rest : List Char) :
    readFrom .quoted (escape word ++ '"' :: rest) = (readFrom .closed rest).push word := by
  induction word with
  | nil => cases hr : readFrom .closed rest <;> simp [escape, readFrom, hr, Reading.push]
  | cons c word ih =>
      have hpush : (Reading.push word (readFrom .closed rest)).push [c] =
          (readFrom .closed rest).push (c :: word) := Reading.push_push [c] word _
      rw [escape]
      split
      · have hslash : '\\' ≠ '"' := by decide
        rw [List.cons_append, readFrom, if_neg hslash, if_pos rfl, List.cons_append, readFrom, ih,
          hpush]
      · next hc =>
          obtain ⟨hquote, hslash⟩ := not_or.mp hc
          rw [List.cons_append, readFrom, if_neg hquote, if_neg hslash, ih, hpush]

/-- A word between quotes is read as the word, whatever it is. -/
theorem readFrom_encode (word rest : List Char) :
    readFrom .front (encode word ++ rest) = (readFrom .closed rest).push word := by
  rw [encode, List.cons_append, readFrom, if_pos rfl, List.append_assoc, List.singleton_append,
    readFrom_escape]

/-- A word that needs no quotes has a character in front that is no quote, and no space. -/
theorem exists_cons_of_not_isNeeded {word : List Char} (h : isNeeded word = false) :
    ∃ c cs, word = c :: cs ∧ c ≠ '"' ∧ ' ' ∉ word := by
  rw [isNeeded, Bool.or_eq_false_iff, List.any_eq_false] at h
  obtain ⟨hne, hall⟩ := h
  cases word with
  | nil => cases hne
  | cons c cs =>
      refine ⟨c, cs, rfl, ?_, fun hspace => ?_⟩
      · rintro rfl
        exact hall '"' List.mem_cons_self rfl
      · exact hall ' ' hspace rfl

/-- What comes after a word is no part of it. -/
theorem readFrom_words_after {s : Stance} (hs : s = .bare ∨ s = .closed)
    (args : List (List Char)) :
    readFrom s (words args) = (readWords (words args)).map fun ws => ([], ws) := by
  cases args with
  | nil => rcases hs with rfl | rfl <;> rfl
  | cons a args =>
      have hwords : words (a :: args) = ' ' :: (word a ++ words args) := rfl
      rw [hwords, readWords, if_pos rfl]
      rcases hs with rfl | rfl
      all_goals
        rw [readFrom, if_pos rfl, Reading.next, Option.map_map]
        rfl

/-- A word on a command line is read, and the words after it are read next. -/
theorem readFrom_word (a : List Char) (args : List (List Char)) :
    readFrom .front (word a ++ words args) =
      (readWords (words args)).map fun ws => (a, ws) := by
  have push_after : ∀ {s : Stance}, s = .bare ∨ s = .closed →
      (readFrom s (words args)).push a = (readWords (words args)).map fun ws => (a, ws) := by
    intro s hs
    rw [readFrom_words_after hs, Reading.push, Option.map_map]
    exact congrArg (fun f => Option.map f _) (funext fun ws => by simp)
  rw [word]
  split
  · rw [readFrom_encode, push_after (.inr rfl)]
  · next hplain =>
      obtain ⟨c, cs, rfl, hquote, hspace⟩ := exists_cons_of_not_isNeeded (by simpa using hplain)
      have hcs : ' ' ∉ cs := fun h => hspace (List.mem_cons_of_mem _ h)
      rw [List.cons_append, readFrom, if_neg hquote, readFrom_bare hcs, Reading.push_push,
        List.singleton_append, push_after (.inl rfl)]

/-- **Words are read back from their line**, whatever characters they are made of. -/
theorem readWords_words (args : List (List Char)) : readWords (words args) = some args := by
  induction args with
  | nil => rfl
  | cons a args ih =>
      have hwords : words (a :: args) = ' ' :: (word a ++ words args) := rfl
      rw [hwords, readWords, if_pos rfl, readFrom_word, ih]
      rfl

/-- A text between quotes is read back. -/
theorem unquote_encode (cs : List Char) : unquote (encode cs) = some cs := by
  have h := readFrom_encode cs []
  rw [List.append_nil] at h
  simp [unquote, h, readFrom, Reading.push]

end Streamkeeper.Text.Quoted
