import Streamkeeper.Proofs.Provisioning.Resolution

/-!
# Isolation — what standard error has to do with an address

The octets that a tool writes to its standard error go to the log, line by line, and its address is
to be read off its exit code and its output alone (`reported`).  Of an external program this holds
exactly if its standard error is a text.  Reading the log lines stops at the first line that is none
(`flaw?`), the whole run is reported as failed, and neither the exit code nor the output is looked
at (`resolve_spawning`).
-/

namespace Streamkeeper.Execution

open Text.Utf8 (Flaw IsText)

/-- The first flaw of standard error. -/
def flaw? (errors : Octets) : Option Flaw :=
  (errorLines (Text.lines errors)).2

theorem errorLines_eq_none_iff {ls : List Text.Line} :
    (errorLines ls).2 = none ↔ ∀ l ∈ ls, ∃ cs, l.text? = .ok cs := by
  induction ls with
  | nil => simp [errorLines]
  | cons l ls ih =>
      rw [errorLines, List.forall_mem_cons, ← ih]
      cases l.text? with
      | error flaw => simp
      | ok cs => simp

/-- Standard error without a flaw is a text. -/
theorem flaw?_eq_none_iff {errors : Octets} : flaw? errors = none ↔ IsText errors :=
  errorLines_eq_none_iff.trans Text.isText_iff_lines.symm

end Streamkeeper.Execution

namespace Streamkeeper.Provisioning

open Execution (Child Process flaw? flaw?_eq_none_iff)
open Text.Utf8 (Flaw IsText)

/-- The address that a child reports by its exit code and its output. -/
def reported (c : Child) : Except Error Address :=
  if c.code ≠ 0 then .error (.processExit toolName c.code) else report (outputText c.output)

/-- A flaw of standard error comes before what the child reports. -/
theorem addressOf_behaviourOf (launch : Launch) (c : Child) :
    addressOf (Execution.behaviourOf launch (.ok c)) =
      match flaw? c.errors with
      | some flaw => .error (.processRun toolName (.reader launch.name flaw.message))
      | none => reported c := by
  rw [← Process.behaviour_external, addressOf_behaviour, Process.started_external,
    Process.ran_external, Process.code_external, Process.chunks_external, ← flaw?]
  cases flaw? c.errors <;> rfl

theorem reported_ne_processRun (c : Child) (e : ProcessError) :
    reported c ≠ .error (.processRun toolName e) := by
  rw [reported, report]
  split_ifs with hc
  · intro h
    cases h
  · split <;> exact fun h => by cases h

namespace Tool

/-- The tool at a path, every launch of which spawns a child. -/
def spawning (path : String) (child : Launch → Child) : Tool :=
  ⟨path, fun launch => Execution.behaviourOf launch (.ok (child launch))⟩

/-- **An address is what the child reports exactly if its standard error is a text.**  The first
flaw of standard error is reported in place of the exit code and of the address.  So children that
differ in their standard error only resolve the same exactly if the messages of the flaws, if there
are any, are the same. -/
theorem resolve_spawning (path : String) (child : Launch → Child) (scope : Scope) :
    let tool := spawning path child
    let c := child (tool.launch scope)
    (tool.resolve scope = reported c ↔ IsText c.errors) ∧
      (∀ flaw, flaw? c.errors = some flaw →
        tool.resolve scope =
          .error (.processRun toolName (.reader "ggp ssh init" flaw.message))) ∧
      ∀ errors : Octets,
        (spawning path fun launch => { child launch with errors := errors }).resolve scope =
            tool.resolve scope ↔
          (flaw? errors).map Flaw.message = (flaw? c.errors).map Flaw.message := by
  intro tool c
  have hc : tool.resolve scope = _ := addressOf_behaviourOf (tool.launch scope) c
  refine ⟨?_, ?_, fun errors => ?_⟩
  · rw [hc, ← flaw?_eq_none_iff]
    cases flaw? c.errors with
    | none => simp
    | some flaw => simpa using (reported_ne_processRun c _).symm
  · intro flaw hf
    rw [hc, hf]
    rfl
  · have he : (spawning path fun launch => { child launch with errors := errors }).resolve scope =
        _ := addressOf_behaviourOf (tool.launch scope) { c with errors := errors }
    have hsame : reported { c with errors := errors } = reported c := rfl
    rw [he, hc, hsame]
    cases flaw? c.errors with
    | none =>
        cases flaw? errors with
        | none => simp
        | some flaw' => simpa using (reported_ne_processRun c _).symm
    | some flaw =>
        cases flaw? errors with
        | none => simpa using reported_ne_processRun c _
        | some flaw' => simp

/-- Of two failing runs that differ by one octet of standard error, one hides the exit code. -/
theorem resolve_spawning_flawed :
    let quiet : Child := ⟨[octets "Host: h\nPort: 22\n"], [], some 3⟩
    let noisy : Child := { quiet with errors := [0xFF] }
    (spawning "ggp" fun _ => quiet).resolve (.ofInstance "i") = .error (.processExit "ggp" 3) ∧
      reported noisy = .error (.processExit "ggp" 3) ∧
      (spawning "ggp" fun _ => noisy).resolve (.ofInstance "i") =
        .error (.processRun "ggp"
          (.reader "ggp ssh init" "invalid utf-8 sequence of 1 bytes from index 0")) := by
  decide +kernel

end Tool

end Streamkeeper.Provisioning
