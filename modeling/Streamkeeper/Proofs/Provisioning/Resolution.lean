import Streamkeeper.Proofs.Execution.Process
import Streamkeeper.Proofs.Text.Valid
import Streamkeeper.Provisioning.Resolve

/-!
# Resolution — one text, however it was cut

To resolve an address, the tool's process is started and waited for, its exit code is looked at,
and its output is read, in this order (`drive`).  The octets of the output are kept as they come
and read as one text at the end, so only what the chunks come to together matters (`drive_eq`).

`resolve_ofFactory` says what resolving gives with any process, and that it gives the same with
another process that cuts the same octets differently.
-/

namespace Streamkeeper.Provisioning

open Execution (Delivery Process)

variable {π : Type}

/-- What a run of the tool comes to: the first failure in the order of the steps, or what the octets
of the output report. -/
def settle (started ran : Except ProcessError Unit) (code : Int) (output : Octets) :
    Except Error Address :=
  match started, ran with
  | .error e, _ => .error (.processStart toolName e)
  | .ok _, .error e => .error (.processRun toolName e)
  | .ok _, .ok _ =>
    if code ≠ 0 then .error (.processExit toolName code)
    else report (String.ofList (Text.Utf8.decodeLossy output))

/-- Resolves with a process of the tool, step by step. -/
def drive (p : Process π) (s : π) : Except Error Address :=
  match (p.start s).run Delivery.keep [] with
  | ((.error e, _), _) => .error (.processStart toolName e)
  | ((.ok _, s), kept) =>
    match (p.wait s).run Delivery.keep kept with
    | ((.error e, _), _) => .error (.processRun toolName e)
    | ((.ok _, s), kept) =>
      if p.exitCode s ≠ 0 then .error (.processExit toolName (p.exitCode s))
      else report (String.ofList (Text.Utf8.decodeLossy kept))

/-- What resolving gives follows from what the chunks come to together. -/
theorem drive_eq (p : Process π) (s : π) :
    drive p s = settle (p.started s) (p.ran s) (p.code s) (p.chunks s).flatten := by
  rw [drive, Delivery.run_keep, List.nil_append, Process.chunks, Process.code, Process.ran,
    Process.afterStart, Process.started, List.flatten_append]
  rcases (p.start s).result with ⟨_ | _, s'⟩
  · rfl
  · simp only [Delivery.run_keep]
    rcases (p.wait s').result with ⟨_ | _, s''⟩ <;> rfl

/-- The behaviour of a process reports what its steps give. -/
theorem addressOf_behaviour (p : Process π) (s : π) :
    addressOf (p.behaviour s) =
      settle (p.started s) (p.ran s) (p.code s) (p.chunks s).flatten := by
  rw [Process.behaviour]
  cases p.started s with
  | error e => rfl
  | ok _ => cases p.ran s <;> rfl

namespace Tool

/-- The tool at a path, every launch of which creates a process. -/
def ofFactory (path : String) (create : Launch → Process π × π) : Tool :=
  ⟨path, fun launch => (create launch).1.behaviour (create launch).2⟩

/-- **The first failure decides, and the chunks do not.**  With any process, an address is resolved
as the steps of `drive` say.  A process that does not start, one that does not run to its end and an
exit code other than zero are reported in this order, whatever was written.  Otherwise the octets of
all chunks together are read as one text, which is the text that they were written as if they are
one.  Another process that starts, runs and ends alike resolves the same if its chunks come to the
same octets. -/
theorem resolve_ofFactory (path : String) (create : Launch → Process π × π) (scope : Scope) :
    let tool := ofFactory path create
    let p := (create (tool.launch scope)).1
    let s := (create (tool.launch scope)).2
    tool.resolve scope = drive p s ∧
      (∀ e, p.started s = .error e → tool.resolve scope = .error (.processStart toolName e)) ∧
      (∀ e, p.started s = .ok () → p.ran s = .error e →
        tool.resolve scope = .error (.processRun toolName e)) ∧
      (p.started s = .ok () → p.ran s = .ok () → p.code s ≠ 0 →
        tool.resolve scope = .error (.processExit toolName (p.code s))) ∧
      (p.started s = .ok () → p.ran s = .ok () → p.code s = 0 →
        tool.resolve scope =
            report (String.ofList (Text.Utf8.decodeLossy (p.chunks s).flatten)) ∧
          ∀ text, (p.chunks s).flatten = Text.Utf8.encode text →
            tool.resolve scope = report (String.ofList text)) ∧
      ∀ (π' : Type) (q : Process π') (t : π'), q.started t = p.started s → q.ran t = p.ran s →
        q.code t = p.code s → (q.chunks t).flatten = (p.chunks s).flatten →
        drive q t = tool.resolve scope := by
  intro tool p s
  have h : tool.resolve scope =
      settle (p.started s) (p.ran s) (p.code s) (p.chunks s).flatten := addressOf_behaviour p s
  refine ⟨?_, ?_, ?_, ?_, ?_, ?_⟩
  · rw [h, drive_eq]
  · intro e hs
    rw [h, hs, settle]
  · intro e hs hr
    rw [h, hs, hr, settle]
  · intro hs hr hc
    rw [h, hs, hr, settle, if_pos hc]
  · intro hs hr hc
    have hreport : tool.resolve scope =
        report (String.ofList (Text.Utf8.decodeLossy (p.chunks s).flatten)) := by
      rw [h, hs, hr, settle, if_neg (not_not_intro hc)]
    refine ⟨hreport, fun text ht => ?_⟩
    rw [hreport, ht, Text.Utf8.decodeLossy_encode]
  · intro π' q t hs hr hc ho
    rw [h, drive_eq, hs, hr, hc, ho]

end Tool

end Streamkeeper.Provisioning
