import Streamkeeper.StandIn.Shell.State

/-!
Taking turns.

Of the processes that wait, the first one whose occasion has come goes on until it waits again.  Time
goes by only when none of them can go on.
-/

namespace Streamkeeper.StandIn.Shell

/-- A process that waits, and what it does then. -/
structure Sleeper where
  process : ProcessId
  occasion : Occasion
  next : World → Outcome Ending

namespace Sleeper

/-- Has the occasion come? -/
def isReady (w : World) (s : Sleeper) : Bool :=
  match s.occasion with
  | .time t => t ≤ w.clock
  | .ended ps interruptible =>
    ps.all (fun p => !w.isAlive p) || (interruptible && !(w.arrived s.process).isEmpty)
  | .contents n => !(w.pipe n).content.isEmpty || w.isComplete n
  | .room n => (w.pipe n).size ≤ World.pipeCapacity || !w.isHeld (.readEnd n)
  | .abandoned n => !w.isHeld (.readEnd n)
  | .never => false
  | .start .. => true

/-- The time for which it waits. -/
def time? (s : Sleeper) : Option Time :=
  match s.occasion with
  | .time t => some t
  | _ => none

end Sleeper

namespace World

/-- Lets processes take turns until all have ended or none can go on.  `perform` says what a new
process does. -/
def takeTurns (perform : Errand → Run Ending) : (fuel : Nat) → List Sleeper → World → World
  | 0, _, w => w
  | fuel + 1, sleepers, w =>
    let sleepers := sleepers.filter fun s => w.isAlive s.process
    match sleepers.find? (·.isReady w) with
    | some s =>
      let others := sleepers.filter fun t => t.process != s.process
      match s.next w with
      | .done r state =>
        let ending : Ending := match r with
          | .ok e => e
          | .error _ => .status state.status
        takeTurns perform fuel others (state.world.finish s.process ending)
      | .pause (.start child errand state) w next =>
        let born : Sleeper :=
          ⟨child, .time (w.clock + Run.forkTime.2.1), fun w => perform errand { state with world := w }⟩
        takeTurns perform fuel (⟨s.process, .time w.clock, next⟩ :: others ++ [born]) w
      | .pause occasion w next =>
        takeTurns perform fuel (others ++ [⟨s.process, occasion, next⟩]) w
    | none =>
      match (sleepers.filterMap Sleeper.time?).min? with
      | some t => takeTurns perform fuel sleepers { w with clock := t }
      | none => w

/-- The most turns that are taken. -/
def turnLimit : Nat := 100000000

/-- Runs a first process and all that come of it. -/
def run (perform : Errand → Run Ending) (errand : Errand) (s : State) : World :=
  takeTurns perform turnLimit
    [⟨s.process, .time s.world.clock, fun w => perform errand { s with world := w }⟩] s.world

end World

end Streamkeeper.StandIn.Shell
