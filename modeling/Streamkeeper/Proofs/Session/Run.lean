import Streamkeeper.Proofs.Session.Step

/-!
# Sessions — calls, and runs of calls

A registry is called to start a session, to stop one and to end all.  `runCalls` makes calls one
after the other and collects what they answer, on any state that answers calls; two such states
that answer alike at every step answer alike over every run (`runCalls_simulates`).  The registries
that calls lead to from an empty one are the *reachable* ones, and all of them are well-formed
(`Reachable.wellFormed`).
-/

namespace Streamkeeper

open Telemetry (StartStatus)

/-- A call of the registry.  A start comes with what the file system says of its directory, and
with the time. -/
inductive Call where
  | start (isDirectory : Bool) (now : UInt64) (p : StartParams)
  | stop (instanceId : String)
  | shutdown

/-- What a handle tells: the directory that it stands for, and how many sessions stream it. -/
structure HandleReport where
  directory : String
  sessionCount : Nat
deriving Repr, DecidableEq

/-- What a call answers. -/
inductive Answer where
  | started (result : Except Error Unit) (status : StartStatus) (handle : Option HandleReport)
  | stopped (result : Except Error Unit)
  | ended

/-- Makes calls one after the other; gives the last state, and the answers in order. -/
def runCalls {σ : Type} (call : σ → Call → σ × Answer) : σ → List Call → σ × List Answer
  | s, [] => (s, [])
  | s, c :: cs =>
    ((runCalls call (call s c).1 cs).1, (call s c).2 :: (runCalls call (call s c).1 cs).2)

/-- States that answer every call alike, and stay related, answer every run alike. -/
theorem runCalls_simulates {σ τ : Type} {call : σ → Call → σ × Answer}
    {call' : τ → Call → τ × Answer} {R : σ → τ → Prop}
    (hstep : ∀ s t c, R s t → (call s c).2 = (call' t c).2 ∧ R (call s c).1 (call' t c).1)
    {s : σ} {t : τ} (h : R s t) (cs : List Call) :
    (runCalls call s cs).2 = (runCalls call' t cs).2 ∧
      R (runCalls call s cs).1 (runCalls call' t cs).1 := by
  induction cs generalizing s t with
  | nil => exact ⟨rfl, h⟩
  | cons c cs ih =>
      obtain ⟨ha, hr⟩ := hstep s t c h
      obtain ⟨has, hrs⟩ := ih hr
      refine ⟨?_, hrs⟩
      rw [runCalls, runCalls, ha, has]

/-- One call more. -/
theorem runCalls_concat {σ : Type} (call : σ → Call → σ × Answer) (s : σ) (cs : List Call)
    (c : Call) :
    runCalls call s (cs ++ [c]) =
      ((call (runCalls call s cs).1 c).1,
        (runCalls call s cs).2 ++ [(call (runCalls call s cs).1 c).2]) := by
  induction cs generalizing s with
  | nil => rfl
  | cons c' cs ih => simp only [List.cons_append, runCalls, ih]

namespace Registry

/-- What a handle tells in a state of the registry. -/
def report (r : Registry) (h : SessionHandle) : HandleReport :=
  ⟨h.directory, (r.behind h).sessions.length⟩

/-- One call of the registry. -/
def call (r : Registry) : Call → Registry × Answer
  | .start isDirectory now p =>
    let o := r.start isDirectory now p
    (o.registry, .started o.result o.status (o.handle.map o.registry.report))
  | .stop i => ((r.stop i).registry, .stopped (r.stop i).result)
  | .shutdown => (r.shutdown.1, .ended)

/-- The registries that calls lead to from an empty one. -/
inductive Reachable (config : SessionConfig) : Registry → Prop where
  | empty : Reachable config (Registry.empty config)
  | call {r : Registry} (h : Reachable config r) (c : Call) : Reachable config (r.call c).1

variable {r : Registry}

theorem call_start_refused {isDirectory : Bool} {p : StartParams}
    (h : p.directory = "" ∨ isDirectory = false) (now : UInt64) :
    r.call (.start isDirectory now p) =
      (r, .started (.error (.badDirectory p.directory)) .invalidDirectory none) := by
  rw [call, start_refused h, Option.map_none]

theorem call_start_accepted {isDirectory : Bool} {p : StartParams}
    (h : ¬(p.directory = "" ∨ isDirectory = false)) (now : UInt64) :
    r.call (.start isDirectory now p) =
      (r.started now p, .started (.ok ()) .ok
        (some ((r.started now p).report (handle (r.joined now p))))) := by
  obtain ⟨hr, hres, hst, hh⟩ := start_accepted (r := r) h now
  rw [call, hr, hres, hst, hh, Option.map_some]

theorem config_stop (r : Registry) (i : String) : (r.stop i).registry.config = r.config := by
  rw [stop]
  split <;> rfl

theorem config_call (r : Registry) (c : Call) : (r.call c).1.config = r.config := by
  cases c with
  | start isDirectory now p =>
      by_cases hd : p.directory = "" ∨ isDirectory = false
      · rw [call_start_refused hd]
      · rw [call_start_accepted hd]
        exact config_started r now p
  | stop i => exact config_stop r i
  | shutdown => rfl

theorem WellFormed.start (h : r.WellFormed) (isDirectory : Bool) (now : UInt64)
    (p : StartParams) : (r.start isDirectory now p).registry.WellFormed := by
  by_cases hd : p.directory = "" ∨ isDirectory = false
  · rw [start_refused hd]
    exact h
  · rw [(start_accepted hd now).1]
    exact h.started now p

theorem WellFormed.call (h : r.WellFormed) (c : Call) : (r.call c).1.WellFormed := by
  cases c with
  | start isDirectory now p => exact h.start isDirectory now p
  | stop i => exact h.stop i
  | shutdown => exact wellFormed_shutdown r

theorem Reachable.wellFormed {config : SessionConfig} (h : Reachable config r) :
    r.WellFormed := by
  induction h with
  | empty => exact wellFormed_empty config
  | call _ c ih => exact ih.call c

end Registry

end Streamkeeper
