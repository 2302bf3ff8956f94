import Mathlib.Data.List.Basic
import Streamkeeper.Proofs.Text.Words
import Streamkeeper.Provisioning.Launch

/-!
# Command lines — a launch is told by its line

The line of a launch is its program and then its arguments, each with a space before it and between
quotes where it needs them.  Behind the program, the arguments are read back from the line
(`readArgs_argsText`).

The tool is asked for an instance by its id, and by a project and an organization that are left out
when they are empty.  The flags say which of the two is there (`optional_append_inj`), so the
arguments tell the three apart, and so does the line that is made of them
(`commandLine_unambiguous`).
-/

namespace Streamkeeper.Provisioning.Launch

/-- What stands on the line of a launch behind its program. -/
def argsText (l : Launch) : String :=
  String.ofList (Text.Quoted.words (l.args.map String.toList))

/-- Reads arguments from a command line whose program was taken away. -/
def readArgs (text : String) : Option (List String) :=
  (Text.Quoted.readWords text.toList).map (List.map String.ofList)

theorem readArgs_argsText (l : Launch) : readArgs l.argsText = some l.args := by
  have hback : (l.args.map String.toList).map String.ofList = l.args := by
    rw [List.map_map]
    exact (List.map_congr_left fun _ _ => String.ofList_toList).trans (List.map_id _)
  rw [readArgs, argsText, String.toList_ofList, Text.Quoted.readWords_words, Option.map_some, hback]

/-! ### Asking the tool for an instance -/

/-- Two options with different flags show their values, also when one is left out. -/
theorem optional_append_inj {flag flag' : String} (hflag : flag ≠ flag') {a b a' b' : String}
    (h : optional flag a ++ optional flag' b = optional flag a' ++ optional flag' b') :
    a = a' ∧ b = b' := by
  -- a flag in front says whether the first value is there, and the length whether the second is
  by_cases ha : a = "" <;> by_cases ha' : a' = "" <;> by_cases hb : b = "" <;>
    by_cases hb' : b' = "" <;> simp_all [optional]

theorem sshInitArgs_inj {i p o i' p' o' : String} (h : sshInitArgs i p o = sshInitArgs i' p' o') :
    i = i' ∧ p = p' ∧ o = o' := by
  have hflag : "--project" ≠ "--organization" := by decide
  simp only [sshInitArgs, List.cons_append, List.nil_append, List.cons.injEq, true_and] at h
  exact ⟨h.1, optional_append_inj hflag h.2⟩

/-- **A command line is unambiguous.**  Behind its program the arguments are read back from it,
whatever they are, and every text is read back from between its quotes.  So no two askings for an
instance, with or without a project and an organization, have the same arguments or the same line. -/
theorem commandLine_unambiguous :
    (∀ l : Launch, ∃ text, l.commandLine = l.program ++ text ∧ readArgs text = some l.args) ∧
    (∀ word, Text.Quoted.unquote (Text.Quoted.encode word) = some word) ∧
    ∀ tool, (Function.Injective fun k : String × String × String =>
        (sshInit tool k.1 k.2.1 k.2.2).args) ∧
      Function.Injective fun k : String × String × String =>
        (sshInit tool k.1 k.2.1 k.2.2).commandLine := by
  have hargs : ∀ tool, Function.Injective fun k : String × String × String =>
      (sshInit tool k.1 k.2.1 k.2.2).args := by
    rintro tool ⟨i, p, o⟩ ⟨i', p', o'⟩ h
    obtain ⟨rfl, rfl, rfl⟩ := sshInitArgs_inj h
    rfl
  refine ⟨fun l => ⟨l.argsText, rfl, l.readArgs_argsText⟩, Text.Quoted.unquote_encode,
    fun tool => ⟨hargs tool, fun k k' h => hargs tool ?_⟩⟩
  -- the program is the same on both lines, so what stands behind it is
  have htext : (sshInit tool k.1 k.2.1 k.2.2).argsText =
      (sshInit tool k'.1 k'.2.1 k'.2.2).argsText := by
    have happend : tool ++ (sshInit tool k.1 k.2.1 k.2.2).argsText =
        tool ++ (sshInit tool k'.1 k'.2.1 k'.2.2).argsText := h
    rwa [String.append_right_inj] at happend
  have hread := congrArg readArgs htext
  rw [readArgs_argsText, readArgs_argsText] at hread
  exact Option.some.inj hread

end Streamkeeper.Provisioning.Launch
