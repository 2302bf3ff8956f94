import Streamkeeper.Execution.Lifecycle

/-!
# Processes — what any process is to its caller

Whatever a process is, its caller starts it, waits for it and asks for its exit code, and gets the
chunks of its output in a handler (`Process`).  What a process does after a chunk may depend on
whether the handler took it (`Delivery`).  To a caller whose handler takes everything, a process
comes to a `Behaviour` (`Process.behaviour`): such a handler sees the chunks in order, each once
(`Delivery.run_accepting`).

An external program is such a process (`Process.external`).  With every handler it does what
`Execution.wait` does (`Process.run_wait_external`), and it comes to what `behaviourOf` gives
(`Process.behaviour_external`).
-/

namespace Streamkeeper.Execution

variable {σ α π : Type}

/-! ### Deliveries -/

/-- Chunks that are handed to a handler, then a result. -/
inductive Delivery (α : Type) where
  | done (result : α)
  /-- What follows a chunk may depend on the handler's answer. -/
  | chunk (octets : Octets) (next : Except String Unit → Delivery α)

namespace Delivery

/-- The result of a delivery to a handler, and the handler's last state. -/
def run (handler : Handler σ) : Delivery α → σ → α × σ
  | .done a, s => (a, s)
  | .chunk c next, s => (next (handler c s).1).run handler (handler c s).2

/-- The result if every chunk is taken. -/
def result : Delivery α → α
  | .done a => a
  | .chunk _ next => (next (.ok ())).result

/-- The chunks if every chunk is taken. -/
def chunks : Delivery α → List Octets
  | .done _ => []
  | .chunk c next => c :: (next (.ok ())).chunks

/-- A handler that takes every chunk. -/
def accepting (f : σ → Octets → σ) : Handler σ :=
  fun chunk s => (.ok (), f s chunk)

/-- A handler that takes every chunk sees the chunks in order. -/
theorem run_accepting (f : σ → Octets → σ) (d : Delivery α) (s : σ) :
    d.run (accepting f) s = (d.result, d.chunks.foldl f s) := by
  induction d generalizing s with
  | done a => rfl
  | chunk c next ih => exact ih (.ok ()) (f s c)

/-- A handler that keeps the octets of all chunks. -/
def keep : Handler Octets :=
  accepting (· ++ ·)

theorem foldl_append (cs : List Octets) (kept : Octets) :
    cs.foldl (· ++ ·) kept = kept ++ cs.flatten := by
  induction cs generalizing kept with
  | nil => exact (List.append_nil kept).symm
  | cons c cs ih => rw [List.foldl_cons, ih, List.flatten_cons, List.append_assoc]

/-- What is kept of a delivery is what its chunks are put together. -/
theorem run_keep (d : Delivery α) (kept : Octets) :
    d.run keep kept = (d.result, kept ++ d.chunks.flatten) := by
  rw [keep, run_accepting, foldl_append]

/-- Delivers chunks up to the first one that is refused. -/
def output : List Octets → (Option String → Delivery α) → Delivery α
  | [], next => next none
  | c :: cs, next => .chunk c fun
    | .ok _ => output cs next
    | .error message => next (some message)

theorem run_output (handler : Handler σ) (cs : List Octets) (next : Option String → Delivery α)
    (s : σ) :
    (output cs next).run handler s =
      (next (deliver handler cs s).1).run handler (deliver handler cs s).2 := by
  induction cs generalizing s with
  | nil => rfl
  | cons c cs ih =>
      rw [output, run, deliver]
      rcases handler c s with ⟨_ | _, s'⟩
      · rfl
      · exact ih s'

theorem result_output (cs : List Octets) (next : Option String → Delivery α) :
    (output cs next).result = (next none).result := by
  induction cs with
  | nil => rfl
  | cons c cs ih => exact ih

theorem chunks_output (cs : List Octets) (next : Option String → Delivery α) :
    (output cs next).chunks = cs ++ (next none).chunks := by
  induction cs with
  | nil => rfl
  | cons c cs ih => exact congrArg (c :: ·) ih

end Delivery

/-- A handler that keeps everything refuses nothing. -/
theorem deliver_collect (cs kept : List Octets) : deliver collect cs kept = (none, kept ++ cs) := by
  induction cs generalizing kept with
  | nil => rw [deliver, List.append_nil]
  | cons c cs ih =>
      rw [deliver, collect]
      exact (ih (kept ++ [c])).trans (by rw [List.append_assoc, List.singleton_append])

/-! ### Processes -/

/-- A process with states in `π`. -/
structure Process (π : Type) where
  start : π → Delivery (Except ProcessError Unit × π)
  wait : π → Delivery (Except ProcessError Unit × π)
  exitCode : π → Int

namespace Process

/-- Does the process start? -/
def started (p : Process π) (s : π) : Except ProcessError Unit :=
  (p.start s).result.1

/-- The process once it was started. -/
def afterStart (p : Process π) (s : π) : π :=
  (p.start s).result.2

/-- Does the process, once started, run to its end? -/
def ran (p : Process π) (s : π) : Except ProcessError Unit :=
  (p.wait (p.afterStart s)).result.1

/-- The exit code at the end. -/
def code (p : Process π) (s : π) : Int :=
  p.exitCode (p.wait (p.afterStart s)).result.2

/-- The chunks of the output, from the start to the end. -/
def chunks (p : Process π) (s : π) : List Octets :=
  (p.start s).chunks ++ (p.wait (p.afterStart s)).chunks

/-- The failure of a result. -/
def failure? : Except ProcessError Unit → Option ProcessError
  | .ok _ => none
  | .error e => some e

/-- What a process comes to.  One that does not start is not waited for. -/
def behaviour (p : Process π) (s : π) : Behaviour :=
  match p.started s with
  | .error e =>
    { startFailure := some e, chunks := (p.start s).chunks, runFailure := none
      exitCode := noExitCode }
  | .ok _ =>
    { startFailure := none, chunks := p.chunks s, runFailure := failure? (p.ran s)
      exitCode := p.code s }

/-- What waiting for a child gives once its output was delivered. -/
def settled (launch : Provisioning.Launch) (child : Child) (refusal : Option String) :
    Except ProcessError Unit × Phase :=
  (resultOf (readingFailure launch.name refusal (errorLines (Text.lines child.errors)).2),
    .ended child.code)

/-- An external program, of which `spawned` is what its spawn gives. -/
def external (launch : Provisioning.Launch) (spawned : Except Host.IoError Child) :
    Process Phase where
  start phase :=
    let o := Execution.start launch (fun _ => (spawned, ())) phase ()
    .done (o.1, o.2.1)
  wait
    | .idle => .done (.error (.notStarted launch.name), .idle)
    | .ended code => .done (.ok (), .ended code)
    | .running child => .output child.output fun refusal => .done (settled launch child refusal)
  exitCode := Phase.exitCode

/-- Waiting for an external program, with any handler. -/
theorem run_wait_external (launch : Provisioning.Launch) (spawned : Except Host.IoError Child)
    (handler : Handler σ) (phase : Phase) (s : σ) :
    ((external launch spawned).wait phase).run handler s =
      let o := Execution.wait launch (some handler) phase s
      ((o.1, o.2.1), o.2.2.2) := by
  cases phase with
  | idle => rfl
  | ended code => rfl
  | running child => exact Delivery.run_output handler child.output _ s

theorem failure?_resultOf (failure : Option ProcessError) :
    failure? (resultOf failure) = failure := by
  cases failure <;> rfl

section External

variable (launch : Provisioning.Launch) (child : Child)

/-- An external program that can be spawned starts. -/
theorem started_external : (external launch (.ok child)).started .idle = .ok () :=
  rfl

theorem wait_external :
    (external launch (.ok child)).wait ((external launch (.ok child)).afterStart .idle) =
      .output child.output fun refusal => .done (settled launch child refusal) :=
  rfl

/-- It runs to its end unless something is wrong with its standard error. -/
theorem ran_external :
    (external launch (.ok child)).ran .idle =
      resultOf (readingFailure launch.name none (errorLines (Text.lines child.errors)).2) := by
  rw [ran, wait_external, Delivery.result_output]
  rfl

theorem code_external : (external launch (.ok child)).code .idle = child.code := by
  rw [code, wait_external, Delivery.result_output]
  rfl

theorem chunks_external : (external launch (.ok child)).chunks .idle = child.output := by
  rw [chunks, wait_external, Delivery.chunks_output]
  exact List.append_nil child.output

/-- The behaviour of an external program that can be spawned: its output, what is wrong with its
standard error, and its exit code. -/
theorem behaviourOf_ok :
    behaviourOf launch (.ok child) =
      { startFailure := none
        chunks := child.output
        runFailure := readingFailure launch.name none (errorLines (Text.lines child.errors)).2
        exitCode := child.code } := by
  have hd : deliver collect child.output [] = (none, child.output) := deliver_collect _ []
  rw [← failure?_resultOf (readingFailure launch.name none _)]
  simp only [behaviourOf, Execution.start, Execution.wait, hd]
  rfl

end External

/-- An external program comes to its behaviour. -/
theorem behaviour_external (launch : Provisioning.Launch)
    (spawned : Except Host.IoError Child) :
    (external launch spawned).behaviour .idle = behaviourOf launch spawned := by
  cases spawned with
  | error e => rfl
  | ok child =>
      rw [behaviourOf_ok, behaviour, started_external]
      simp only [ran_external, code_external, chunks_external, failure?_resultOf]

end Process

end Streamkeeper.Execution
