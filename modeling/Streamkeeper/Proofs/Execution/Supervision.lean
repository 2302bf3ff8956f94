import Mathlib.Data.List.Induction
import Streamkeeper.Execution.Supervisor

/-!
# Supervision — one child, and its exit code for good

A supervisor sets its parts at different calls, and still only three combinations of them come up
(`Stage`): no child, a child with its readers, and a child with an exit code.  In each of them it
answers as a process in that phase does (`Stage.start_process`, `Stage.wait_process`).

A `Scene` is a supervisor with everything that its calls change, where the outcomes of the spawns
are written down.  After any calls it is at a stage, and the stage says which children were created
(`Scene.At.calls`).  From the start that creates a child on, later calls leave what was spawned
alone, and the first wait settles the exit code (`Scene.At.started`).

`Scene.calls_lifecycle` is the life of a supervisor through every sequence of calls and every
outcome of its spawns.
-/

namespace Streamkeeper.Execution

variable {σ ω : Type}

/-! ### The readers of a child -/

/-- What a handler does with the output of a child: its refusal, and its last state. -/
def handled (handler : Option (Handler σ)) (child : Child) (s : σ) : Option String × σ :=
  match handler with
  | some h => deliver h child.output s
  | none => (none, s)

namespace Child

/-- The flaw of the first line of the errors that is no text. -/
def flaw (c : Child) : Option Text.Utf8.Flaw :=
  (errorLines (Text.lines c.errors)).2

/-- What the readers of a child log. -/
def logged (c : Child) (launch : Provisioning.Launch) : List Notice :=
  (if launch.forwardsOutput then forwardedLines c.output.flatten else []).map .output ++
    (errorLines (Text.lines c.errors)).1.map .errors

/-- How waiting for the readers of a child fails. -/
def failure (c : Child) (launch : Provisioning.Launch) (handler : Option (Handler σ)) (s : σ) :
    Option ProcessError :=
  readingFailure launch.name (handled handler c s).1 c.flaw

end Child

section Readers

variable (launch : Provisioning.Launch) (handler : Option (Handler σ)) (child : Child) (s : σ)

/-- The two readers of a child fail as one: a refusal of the handler comes first. -/
theorem finishAll_readers :
    Reader.finishAll launch handler child.readers s =
      (child.failure launch handler s, child.logged launch, (handled handler child s).2) := by
  have ho : (Reader.output child.output).finish launch handler s =
      ((handled handler child s).1.map (.handler launch.name),
        (if launch.forwardsOutput then forwardedLines child.output.flatten else []).map .output,
        (handled handler child s).2) := by
    cases handler <;> rfl
  have he : ∀ s : σ, (Reader.errors child.errors).finish launch handler s =
      (child.flaw.map fun f => .reader launch.name f.message,
        (errorLines (Text.lines child.errors)).1.map .errors, s) := fun _ => rfl
  have hf : ((handled handler child s).1.map (ProcessError.handler launch.name)).or
      ((child.flaw.map fun f => .reader launch.name f.message).or none) =
        child.failure launch handler s := by
    rw [Child.failure]
    rcases (handled handler child s).1 with _ | message <;> rcases child.flaw with _ | flaw <;> rfl
  simp only [Child.readers, Reader.finishAll, ho, he, hf, List.append_nil, Child.logged]

theorem wait_running :
    Execution.wait launch handler (.running child) s =
      (resultOf (child.failure launch handler s), .ended child.code, child.logged launch,
        (handled handler child s).2) := by
  cases handler <;> rfl

end Readers

/-! ### Stages -/

/-- How far a supervisor has come. -/
inductive Stage where
  | unstarted
  | running (child : Child)
  | ended (child : Child)

namespace Stage

/-- The parts of a supervisor. -/
def process (launch : Provisioning.Launch) : Stage → Supervisor
  | unstarted => ⟨launch, none, [], none⟩
  | running child => ⟨launch, some child, child.readers, none⟩
  | ended child => ⟨launch, some child, [], some child.code⟩

/-- The phase of its process. -/
def phase : Stage → Phase
  | unstarted => .idle
  | running child => .running child
  | ended child => .ended child.code

/-- The children that were created. -/
def children : Stage → List Child
  | unstarted => []
  | running child => [child]
  | ended child => [child]

variable (launch : Provisioning.Launch) (stage : Stage)

theorem code_process : (stage.process launch).code = stage.phase.exitCode := by
  cases stage <;> rfl

/-- A supervisor starts as its process does. -/
theorem start_process (spawn : ω → Except Host.IoError Child × ω) (w : ω) :
    ∃ stage' : Stage, stage'.phase = (Execution.start launch spawn stage.phase w).2.1 ∧
      (stage.process launch).start spawn w =
        let o := Execution.start launch spawn stage.phase w
        (o.1, stage'.process launch, o.2.2) := by
  cases stage with
  | unstarted =>
      rcases hs : spawn w with ⟨e | child, w'⟩
      · exact ⟨unstarted, by simp [phase, Execution.start, hs],
          by simp [phase, process, Supervisor.start, Execution.start, hs]⟩
      · exact ⟨running child, by simp [phase, Execution.start, hs],
          by simp [phase, process, Supervisor.start, Execution.start, hs]⟩
  | running child => exact ⟨running child, rfl, rfl⟩
  | ended child => exact ⟨ended child, rfl, rfl⟩

/-- A supervisor waits as its process does. -/
theorem wait_process (handler : Option (Handler σ)) (s : σ) :
    ∃ stage' : Stage, stage'.phase = (Execution.wait launch handler stage.phase s).2.1 ∧
      (stage.process launch).wait handler s =
        let o := Execution.wait launch handler stage.phase s
        (o.1, stage'.process launch, o.2.2) := by
  cases stage with
  | unstarted => exact ⟨unstarted, rfl, rfl⟩
  | running child =>
      refine ⟨ended child, ?_, ?_⟩
      · rw [phase, phase, wait_running]
      · rw [phase, process, wait_running, Supervisor.wait]
        simp only [finishAll_readers]
        rfl
  | ended child => exact ⟨ended child, rfl, rfl⟩

end Stage

/-! ### Calls -/

/-- A call of a supervisor. -/
inductive Call where
  | start
  | wait
deriving Repr, DecidableEq

/-- A supervisor with everything that its calls change: the surroundings of the spawns, what the
spawns gave so far, the state of the handler, and the records. -/
structure Scene (ω σ : Type) where
  process : Supervisor
  world : ω
  spawned : List (Except Host.IoError Child)
  kept : σ
  notices : List Notice

/-- A spawn that writes down what it gives. -/
def watched (spawn : ω → Except Host.IoError Child × ω) :
    ω × List (Except Host.IoError Child) →
      Except Host.IoError Child × ω × List (Except Host.IoError Child) :=
  fun (w, spawned) =>
    let (outcome, w) := spawn w
    (outcome, w, spawned ++ [outcome])

namespace Scene

/-- A supervisor before its first call. -/
def fresh (launch : Provisioning.Launch) (world : ω) (kept : σ) : Scene ω σ :=
  ⟨.ofLaunch launch, world, [], kept, []⟩

/-- The children that were created. -/
def children (s : Scene ω σ) : List Child :=
  s.spawned.filterMap Except.toOption

section

variable (spawn : ω → Except Host.IoError Child × ω) (handler : Option (Handler σ))

/-- A call: its result, and what is there after it. -/
def call (s : Scene ω σ) : Call → Except ProcessError Unit × Scene ω σ
  | .start =>
    let (result, process, notices, world, spawned) :=
      s.process.start (watched spawn) (s.world, s.spawned)
    (result, ⟨process, world, spawned, s.kept, s.notices ++ notices⟩)
  | .wait =>
    let (result, process, notices, kept) := s.process.wait handler s.kept
    (result, ⟨process, s.world, s.spawned, kept, s.notices ++ notices⟩)

/-- What is there after calls in a row. -/
def calls (s : Scene ω σ) (cs : List Call) : Scene ω σ :=
  cs.foldl (fun s c => (s.call spawn handler c).2) s

/-- What a supervisor does while it has no child. -/
structure Unstarted (launch : Provisioning.Launch) (s : Scene ω σ) : Prop where
  exitCode : s.process.code = -1
  /-- A wait is refused and changes nothing. -/
  wait : s.call spawn handler .wait = (.error (.notStarted launch.name), s)
  /-- A start whose spawn fails reports that, and leaves the supervisor as it is. -/
  failed : ∀ cause world, spawn s.world = (.error cause, world) →
    s.call spawn handler .start = (.error (.spawn launch.name cause),
      { s with
        world := world
        spawned := s.spawned ++ [.error cause]
        notices := s.notices ++ [.starting launch.commandLine] })
  /-- A start whose spawn succeeds succeeds, and the child is created. -/
  started : ∀ child world, spawn s.world = (.ok child, world) →
    (s.call spawn handler .start).1 = .ok () ∧
      (s.call spawn handler .start).2.world = world ∧
      (s.call spawn handler .start).2.spawned = s.spawned ++ [.ok child] ∧
      (s.call spawn handler .start).2.kept = s.kept

/-- What a supervisor does after a start that created `child` and left `s`, and `later` calls. -/
structure Started (launch : Provisioning.Launch) (child : Child) (s : Scene ω σ)
    (later : List Call) : Prop where
  /-- Nothing is spawned. -/
  spawned : (s.calls spawn handler later).spawned = s.spawned
  world : (s.calls spawn handler later).world = s.world
  /-- The exit code is known from the first wait on; a child that a signal ended has -1. -/
  exitCode : (s.calls spawn handler later).process.code =
    if .wait ∈ later then child.exitCode.elim (-1) Nat.cast else -1
  /-- The output is delivered by the first wait. -/
  kept : (s.calls spawn handler later).kept =
    if .wait ∈ later then (handled handler child s.kept).2 else s.kept
  /-- Another start is refused and changes nothing. -/
  start : (s.calls spawn handler later).call spawn handler .start =
    (.error (.alreadyStarted launch.name), s.calls spawn handler later)
  /-- The first wait reports what went wrong in the readers. -/
  firstWait : .wait ∉ later → ((s.calls spawn handler later).call spawn handler .wait).1 =
    resultOf (child.failure launch handler s.kept)
  /-- Another wait succeeds and changes nothing. -/
  wait : .wait ∈ later → (s.calls spawn handler later).call spawn handler .wait =
    (.ok (), s.calls spawn handler later)

/-- The life of a supervisor of `launch` through the calls `cs`. -/
structure Lifecycle (launch : Provisioning.Launch) (s : Scene ω σ) (cs : List Call) : Prop where
  /-- At most one child is ever created. -/
  single : (s.calls spawn handler cs).children.length ≤ 1
  unstarted : (s.calls spawn handler cs).children = [] →
    Unstarted spawn handler launch (s.calls spawn handler cs)
  /-- The child was created by a start that found none. -/
  started : ∀ child ∈ (s.calls spawn handler cs).children, ∃ early later,
    cs = early ++ .start :: later ∧ (s.calls spawn handler early).children = [] ∧
      ((s.calls spawn handler early).call spawn handler .start).1 = .ok () ∧
      Started spawn handler launch child (s.calls spawn handler (early ++ [.start])) later

end

variable {spawn : ω → Except Host.IoError Child × ω} {handler : Option (Handler σ)}
  {launch : Provisioning.Launch} {child : Child} {s : Scene ω σ}

theorem calls_append (early later : List Call) :
    s.calls spawn handler (early ++ later) =
      (s.calls spawn handler early).calls spawn handler later :=
  List.foldl_append

theorem calls_concat (cs : List Call) (c : Call) :
    s.calls spawn handler (cs ++ [c]) = ((s.calls spawn handler cs).call spawn handler c).2 :=
  calls_append cs [c]

/-- A scene at a stage: the parts of the supervisor, and the children that were created. -/
structure At (launch : Provisioning.Launch) (stage : Stage) (s : Scene ω σ) : Prop where
  process : s.process = stage.process launch
  children : s.children = stage.children

/-- One of the calls is a start that finds no child and creates one. -/
def Creates (spawn : ω → Except Host.IoError Child × ω) (handler : Option (Handler σ))
    (launch : Provisioning.Launch) (child : Child) (s : Scene ω σ) (cs : List Call) : Prop :=
  ∃ world early later, cs = early ++ .start :: later ∧
    (s.calls spawn handler early).At launch .unstarted ∧
    spawn (s.calls spawn handler early).world = (.ok child, world)

namespace At

theorem fresh (launch : Provisioning.Launch) (world : ω) (kept : σ) :
    (Scene.fresh launch world kept).At launch .unstarted :=
  ⟨rfl, rfl⟩

/-! #### One call at a stage -/

theorem wait_unstarted (h : s.At launch .unstarted) :
    s.call spawn handler .wait = (.error (.notStarted launch.name), s) := by
  obtain ⟨process, world, spawned, kept, notices⟩ := s
  obtain rfl : process = _ := h.process
  simp [call, Stage.process, Supervisor.wait]

theorem start_unstarted_error (h : s.At launch .unstarted) {cause : Host.IoError} {world : ω}
    (hs : spawn s.world = (.error cause, world)) :
    s.call spawn handler .start = (.error (.spawn launch.name cause),
      { s with
        world := world
        spawned := s.spawned ++ [.error cause]
        notices := s.notices ++ [.starting launch.commandLine] }) := by
  obtain ⟨process, world₀, spawned, kept, notices⟩ := s
  obtain rfl : process = _ := h.process
  simp only at hs
  simp [call, Stage.process, Supervisor.start, watched, hs]

theorem start_unstarted_ok (h : s.At launch .unstarted) {world : ω}
    (hs : spawn s.world = (.ok child, world)) :
    s.call spawn handler .start = (.ok (),
      { process := Stage.process launch (.running child)
        world := world
        spawned := s.spawned ++ [.ok child]
        kept := s.kept
        notices := s.notices ++ [.starting launch.commandLine] }) := by
  obtain ⟨process, world₀, spawned, kept, notices⟩ := s
  obtain rfl : process = _ := h.process
  simp only at hs
  simp [call, Stage.process, Supervisor.start, watched, hs]

/-- A supervisor that has a child refuses to start. -/
theorem start_of_child {stage : Stage} (h : s.At launch stage) (hc : stage.children = [child]) :
    s.call spawn handler .start = (.error (.alreadyStarted launch.name), s) := by
  obtain ⟨process, world, spawned, kept, notices⟩ := s
  obtain rfl : process = _ := h.process
  cases stage with
  | unstarted => cases hc
  | running child => simp [call, Stage.process, Supervisor.start]
  | ended child => simp [call, Stage.process, Supervisor.start]

theorem wait_running (h : s.At launch (.running child)) :
    s.call spawn handler .wait = (resultOf (child.failure launch handler s.kept),
      { s with
        process := Stage.process launch (.ended child)
        kept := (handled handler child s.kept).2
        notices := s.notices ++ child.logged launch }) := by
  obtain ⟨process, world, spawned, kept, notices⟩ := s
  obtain rfl : process = _ := h.process
  simp [call, Stage.process, Supervisor.wait, finishAll_readers]

theorem wait_ended (h : s.At launch (.ended child)) :
    s.call spawn handler .wait = (.ok (), s) := by
  obtain ⟨process, world, spawned, kept, notices⟩ := s
  obtain rfl : process = _ := h.process
  simp [call, Stage.process, Supervisor.wait, Reader.finishAll, resultOf]

/-- A start that creates a child. -/
theorem start_ok (h : s.At launch .unstarted) {world : ω}
    (hs : spawn s.world = (.ok child, world)) :
    (s.call spawn handler .start).2.At launch (.running child) := by
  have hc : s.spawned.filterMap Except.toOption = [] := h.children
  rw [start_unstarted_ok h hs]
  refine ⟨rfl, ?_⟩
  simp [Scene.children, hc, Except.toOption, Stage.children]

theorem start_error (h : s.At launch .unstarted) {cause : Host.IoError} {world : ω}
    (hs : spawn s.world = (.error cause, world)) :
    (s.call spawn handler .start).2.At launch .unstarted := by
  have hc : s.spawned.filterMap Except.toOption = [] := h.children
  rw [start_unstarted_error h hs]
  refine ⟨h.process, ?_⟩
  simp [Scene.children, hc, Except.toOption, Stage.children]

/-! #### Calls in a row -/

/-- Calls leave a supervisor without a child, or one of them creates it. -/
theorem calls (h : s.At launch .unstarted) (cs : List Call) :
    (s.calls spawn handler cs).At launch .unstarted ∨
      ∃ child, Creates spawn handler launch child s cs := by
  induction cs generalizing s with
  | nil => exact .inl h
  | cons c cs ih =>
      -- after a call that creates no child, the other calls may still do
      have step (hc : (s.call spawn handler c).2.At launch .unstarted) :
          (s.calls spawn handler (c :: cs)).At launch .unstarted ∨
            ∃ child, Creates spawn handler launch child s (c :: cs) :=
        (ih hc).imp_right fun ⟨child, world, early, later, hcs, he, hs⟩ =>
          ⟨child, world, c :: early, later, hcs ▸ rfl, he, hs⟩
      cases c with
      | wait =>
          refine step ?_
          rw [wait_unstarted h]
          exact h
      | start =>
          rcases hs : spawn s.world with ⟨cause | child, world⟩
          · exact step (start_error h hs)
          · exact .inr ⟨child, world, [], cs, rfl, h, hs⟩

/-- What calls do once there is a child. -/
theorem running_calls (h : s.At launch (.running child)) (later : List Call) :
    (s.calls spawn handler later).At launch
        (if .wait ∈ later then .ended child else .running child) ∧
      (s.calls spawn handler later).spawned = s.spawned ∧
      (s.calls spawn handler later).world = s.world ∧
      (s.calls spawn handler later).kept =
        if .wait ∈ later then (handled handler child s.kept).2 else s.kept := by
  induction later using List.reverseRecOn with
  | nil => exact ⟨h, rfl, rfl, rfl⟩
  | append_singleton later c ih =>
      obtain ⟨hat, hspawned, hworld, hkept⟩ := ih
      rw [calls_concat]
      by_cases hw : Call.wait ∈ later
      · rw [if_pos hw] at hat hkept
        have hu : (((s.calls spawn handler later).call spawn handler c).2) =
            s.calls spawn handler later := by
          cases c with
          | start => rw [start_of_child hat rfl]
          | wait => rw [wait_ended hat]
        rw [hu, if_pos (List.mem_append_left _ hw), if_pos (List.mem_append_left _ hw)]
        exact ⟨hat, hspawned, hworld, hkept⟩
      · rw [if_neg hw] at hat hkept
        cases c with
        | start =>
            rw [start_of_child hat rfl, if_neg (by simpa using hw), if_neg (by simpa using hw)]
            exact ⟨hat, hspawned, hworld, hkept⟩
        | wait =>
            have hc : (s.calls spawn handler later).children = [child] := hat.children
            rw [wait_running hat, if_pos (by simp), if_pos (by simp), hkept]
            exact ⟨⟨rfl, hc⟩, hspawned, hworld, rfl⟩

end At

/-! ### The life of a supervisor -/

theorem At.unstarted (h : s.At launch .unstarted) : s.Unstarted spawn handler launch where
  exitCode := by
    rw [h.process]
    rfl
  wait := h.wait_unstarted
  failed _ _ hs := h.start_unstarted_error hs
  started _ _ hs := by
    rw [h.start_unstarted_ok hs]
    exact ⟨rfl, rfl, rfl, rfl⟩

theorem At.started (h : s.At launch (.running child)) (later : List Call) :
    s.Started spawn handler launch child later := by
  obtain ⟨hat, hspawned, hworld, hkept⟩ := h.running_calls later
  have hc : (if Call.wait ∈ later then Stage.ended child else .running child).children =
      [child] := by
    split <;> rfl
  refine ⟨hspawned, hworld, ?_, hkept, ?_, fun hw => ?_, fun hw => ?_⟩
  · rw [hat.process]
    by_cases hw : Call.wait ∈ later
    · rw [if_pos hw, if_pos hw]
      rcases child with ⟨output, errors, _ | n⟩ <;> rfl
    · rw [if_neg hw, if_neg hw]
      rfl
  · exact hat.start_of_child hc
  · rw [if_neg hw] at hat hkept
    rw [hat.wait_running, hkept]
  · rw [if_pos hw] at hat
    exact hat.wait_ended

/-- The scene after the start that creates a child, and the calls that follow. -/
theorem Creates.split {cs : List Call} (h : Creates spawn handler launch child s cs) :
    ∃ early later, cs = early ++ .start :: later ∧
      (s.calls spawn handler early).At launch .unstarted ∧
      ((s.calls spawn handler early).call spawn handler .start).1 = .ok () ∧
      (s.calls spawn handler (early ++ [.start])).At launch (.running child) ∧
      s.calls spawn handler cs =
        (s.calls spawn handler (early ++ [.start])).calls spawn handler later := by
  obtain ⟨world, early, later, rfl, hat, hs⟩ := h
  refine ⟨early, later, rfl, hat, by rw [hat.start_unstarted_ok hs], ?_, ?_⟩
  · rw [calls_concat]
    exact hat.start_ok hs
  · rw [← calls_append, List.append_assoc, List.singleton_append]

variable (spawn handler launch)

/-- **The life of a supervisor.**  Through every sequence of calls, and whatever its spawns give, a
supervisor creates at most one child.  While it has none, a wait is refused and changes nothing, a
start whose spawn fails reports that and can be repeated, and the exit code is -1.  From the start
that creates the child on, nothing is spawned again and every start is refused; the first wait
delivers the output and reports a refusal of the handler or a flaw of the errors, every later one
succeeds and changes nothing, and the exit code is -1 before the first wait and the child's ever
after.

Assumed are a child that can be waited for and outputs that can be read to their ends (`Child`): a
read of the standard output that fails is not among the failures of a wait here. -/
theorem calls_lifecycle (world : ω) (kept : σ) (cs : List Call) :
    Lifecycle spawn handler launch (fresh launch world kept) cs := by
  have hf : (fresh launch world kept).At launch .unstarted := At.fresh launch world kept
  rcases hf.calls cs with hat | ⟨child, hc⟩
  · have hn : ((fresh launch world kept).calls spawn handler cs).children = [] := hat.children
    refine ⟨by simp [hn], fun _ => hat.unstarted, fun child hm => ?_⟩
    rw [hn] at hm
    cases hm
  · obtain ⟨early, later, hcs, hat, hok, hrun, hcalls⟩ := hc.split
    have hone : ((fresh launch world kept).calls spawn handler cs).children = [child] := by
      rw [hcalls, children, (hrun.started later).spawned]
      exact hrun.children
    refine ⟨by simp [hone], fun hn => ?_, fun c hm => ?_⟩
    · rw [hone] at hn
      cases hn
    · obtain rfl : c = child := by simpa [hone] using hm
      exact ⟨early, later, hcs, hat.children, hok, hrun.started later⟩

/-- A start is tried again after a spawn that failed; the handler refuses the output of the child,
and the exit code stays. -/
example :
    let missing : Except Host.IoError Child := .error (.os .noEntry)
    let spawn : List (Except Host.IoError Child) → _ := fun
      | [] => (missing, [])
      | outcome :: rest => (outcome, rest)
    let outcomes := [missing, .ok ⟨[[104], [105]], [], some 3⟩, .ok ⟨[], [], none⟩]
    let refuse : Handler (List Octets) := fun chunk kept => (.error "no room", kept ++ [chunk])
    let s := (fresh (.ofProgram "sh") outcomes []).calls spawn (some refuse)
      [.wait, .start, .start, .wait, .start, .wait]
    s.process.code = 3 ∧ s.kept = [[104]] ∧ s.children.length = 1 ∧ s.world.length = 1 := by
  decide

end Scene

end Streamkeeper.Execution
