import Streamkeeper.Daemon.Requests
import Streamkeeper.Proofs.Text.Lines
import Streamkeeper.Proofs.Wire.RoundTrip

/-!
# Connections — one answer for one line

A line of a connection has its turn (`Turn`): a blank line gets no response, a request is handled,
and any other line gets an error and changes nothing.  The lines have their turns one after the
other, each in the state that the lines before it left (`Turns`).

`connection_answers`: whatever lines a client writes, a connection takes their turns to the last
line, and its answers are the responses that were given, one for each line that is not blank, each
on a line of its own.
-/

namespace Streamkeeper.Daemon

open Text (WrittenText)

/-- Characters of which one is not blank. -/
def IsWritten (line : List Char) : Prop :=
  ∃ c ∈ line, Text.isBlank c = false

instance (line : List Char) : Decidable (IsWritten line) :=
  inferInstanceAs (Decidable (∃ c ∈ line, Text.isBlank c = false))

theorem not_isWritten_iff {line : List Char} :
    ¬IsWritten line ↔ line.all Text.isBlank = true := by
  simp [IsWritten]

/-- What a line does: the response it gets, what is recorded, and the state it leaves. -/
inductive Turn (w : Surroundings) :
    (line : List Char) → State → Option Response → Journal → State → Prop where
  /-- A blank line does nothing. -/
  | blank {line : List Char} (s : State) (h : ¬IsWritten line) : Turn w line s none [] s
  /-- A request is handled. -/
  | request {line : List Char} {r : Request} (s : State) (h : IsWritten line)
      (hr : Request.read? (String.ofList line) = .ok r) :
      Turn w line s (some (handle w r s).response) (handle w r s).journal (handle w r s).state
  /-- A line that is no request gets an error and does nothing else. -/
  | malformed {line : List Char} {e : Json.ReadError} (s : State) (h : IsWritten line)
      (hr : Request.read? (String.ofList line) = .error e) :
      Turn w line s (some (.error .invalidArgument ("malformed request: " ++ e.message))) [] s

/-- Lines one after the other, each in the state that the lines before it left; `w n` are the
surroundings of line `n`. -/
inductive Turns : (w : Nat → Surroundings) → (lines : List (List Char)) → State →
    List (Option Response) → Journal → State → Prop where
  | nil (w : Nat → Surroundings) (s : State) : Turns w [] s [] [] s
  | cons {w : Nat → Surroundings} {line : List Char} {lines : List (List Char)}
      {s s₁ s' : State} {response : Option Response} {responses : List (Option Response)}
      {j j' : Journal} (h : Turn (w 0) line s response j s₁)
      (t : Turns (fun n => w (n + 1)) lines s₁ responses j' s') :
      Turns w (line :: lines) s (response :: responses) (j ++ j') s'

variable {w : Nat → Surroundings}

theorem turn_answerLine (w : Surroundings) (line : List Char) (s : State) :
    Turn w line s (answerLine w line s).1 (answerLine w line s).2.1 (answerLine w line s).2.2 := by
  by_cases hl : IsWritten line
  · have hblank : ¬line.all Text.isBlank = true := fun h => not_isWritten_iff.mpr h hl
    unfold answerLine
    rw [if_neg hblank]
    cases hr : Request.read? (String.ofList line) with
    | ok r => exact .request s hl hr
    | error e => exact .malformed s hl hr
  · unfold answerLine
    rw [if_pos (not_isWritten_iff.mp hl)]
    exact .blank s hl

/-- A line gets a response exactly if it is not blank. -/
theorem Turn.isSome_response {w : Surroundings} {line : List Char} {s s' : State}
    {response : Option Response} {j : Journal} (h : Turn w line s response j s') :
    response.isSome = true ↔ IsWritten line := by
  cases h with
  | blank _ h => exact ⟨fun hs => absurd hs Bool.false_ne_true, fun hl => absurd hl h⟩
  | request _ h => exact ⟨fun _ => h, fun _ => rfl⟩
  | malformed _ h => exact ⟨fun _ => h, fun _ => rfl⟩

/-- There are as many responses as lines that are not blank. -/
theorem Turns.length_responses {lines : List (List Char)} {s s' : State}
    {responses : List (Option Response)} {j : Journal} (h : Turns w lines s responses j s') :
    (responses.filterMap id).length = (lines.filter fun line => IsWritten line).length := by
  induction h with
  | nil => rfl
  | @cons w line _ _ _ _ response _ _ _ h _ ih =>
      have hiff := h.isSome_response
      cases response with
      | none =>
          have hl : ¬IsWritten line := fun hl => absurd (hiff.mpr hl) Bool.false_ne_true
          simpa [hl] using ih
      | some response =>
          have hl : IsWritten line := hiff.mp rfl
          simpa [hl] using ih

/-- Lines that are texts have their turns to the last one. -/
theorem turns_answerLines {ls : List Text.Line} {lines : List (List Char)}
    (h : ls.map Text.Line.text? = lines.map .ok) (s : State) :
    ∃ responses, Turns w lines s responses (answerLines w ls s).journal (answerLines w ls s).state ∧
      (answerLines w ls s).answers = (responses.filterMap id).map Response.render := by
  induction ls generalizing w lines s with
  | nil =>
      obtain rfl : lines = [] := by
        cases lines with
        | nil => rfl
        | cons => cases h
      exact ⟨[], .nil w s, rfl⟩
  | cons l ls ih =>
      cases lines with
      | nil => cases h
      | cons line lines =>
          obtain ⟨hl, hls⟩ := List.cons.inj h
          have hturn := turn_answerLine (w 0) line s
          obtain ⟨responses, hturns, hanswers⟩ := ih hls (answerLine (w 0) line s).2.2
          -- the lines that follow start from the state that this turn left
          refine ⟨(answerLine (w 0) line s).1 :: responses, ?_, ?_⟩
          · simp only [answerLines, hl]
            exact .cons hturn hturns
          · simp only [answerLines, hl, hanswers]
            cases (answerLine (w 0) line s).1 <;> rfl

/-- **One answer for one line.**  A connection takes the turns of all lines that a client writes,
from any state and in any surroundings.  Its answers are the responses in the order of the lines,
one for each line that is not blank, and no answer has a line feed inside. -/
theorem connection_answers (w : Nat → Surroundings) (t : WrittenText) (s : State) :
    let c := serveConnection w (Text.Utf8.encode t.chars) s
    ∃ responses, Turns w t.texts s responses c.journal c.state ∧
      c.answers = (responses.filterMap id).map Response.render ∧
      c.answers.length = (t.texts.filter fun line => IsWritten line).length ∧
      ∀ answer ∈ c.answers, SingleLine answer := by
  obtain ⟨responses, hturns, hanswers⟩ := turns_answerLines (w := w) t.texts_lines s
  refine ⟨responses, hturns, hanswers, ?_, ?_⟩
  · exact (congrArg List.length hanswers).trans
      ((List.length_map _).trans hturns.length_responses)
  · intro answer ha
    have ha : answer ∈ (responses.filterMap id).map Response.render := hanswers ▸ ha
    obtain ⟨response, -, rfl⟩ := List.mem_map.mp ha
    exact singleLine_compact _

end Streamkeeper.Daemon
