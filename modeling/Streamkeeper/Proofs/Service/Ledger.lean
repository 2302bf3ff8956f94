import Streamkeeper.Proofs.Service.Atomic
import Streamkeeper.Proofs.Session.History

/-!
# The service — the ledger over a run

A run takes operations one after the other: starts and stops that the service is asked for, and
shutdowns of the registry.  Stop events come from stops, from starts in another directory and from
shutdowns, start events from starts that succeed; a start that fails records an event about no
instance.  One operation continues the chronicle of every instance, from the session that the
registry has before it to the one that it has afterwards (`Chronicle.take`), and so does a run
(`Chronicle.run`).

`run_balanced`: over every run from an empty registry the history of every instance is
well-bracketed, and its starts less its stops and its restarts in place are one if the instance is
tracked in the end and none otherwise.
-/

namespace Streamkeeper

open Telemetry (Event Kind)

namespace Service

/-- What the service is asked to do, or the registry. -/
inductive Operation where
  | start (tool : Provisioning.Tool) (request : StartRequest)
  | stop (gameletId : String)
  | shutdown

/-- An operation, with what the file system says of directories at the time. -/
structure Turn where
  isDirectory : String → Bool
  now : UInt64
  operation : Operation

namespace Turn

/-- Carries the operation out. -/
def take (t : Turn) (r : Registry) : Outcome Registry :=
  match t.operation with
  | .start tool request => start (Registry.registrar t.isDirectory t.now) tool request r
  | .stop id => stop (Registry.registrar t.isDirectory t.now) id r
  | .shutdown => { result := .ok (), journal := r.shutdown.2, state := r.shutdown.1 }

/-- One if the turn starts an instance again in the directory that it streams, and succeeds. -/
def restarts (t : Turn) (i : String) (r : Registry) : Nat :=
  match t.operation with
  | .start _ request =>
    if (t.take r).result = .ok () ∧
        (Scope.parse? request.gameletName).map (·.instanceId) = some i ∧
        (r.find? i).map (·.directory) = some request.workstationDirectory then 1
    else 0
  | _ => 0

end Turn

/-- Takes turns; gives the last registry, and the journal of all. -/
def run (r : Registry) : List Turn → Registry × Journal
  | [] => (r, [])
  | t :: ts => ((run (t.take r).state ts).1, (t.take r).journal ++ (run (t.take r).state ts).2)

/-- The restarts of an instance in place, over a run. -/
def restarts (i : String) (r : Registry) : List Turn → Nat
  | [] => 0
  | t :: ts => t.restarts i r + restarts i (t.take r).state ts

end Service

open Service

namespace Chronicle

variable {i : String} {h : Events} {n : Nat} {r : Registry} {o : Outcome Registry}

/-! ### One operation -/

theorem of_failed (c : Chronicle i h (r.session? i) n) (f : Failed r o) :
    Chronicle i (h ++ Events.ofInstance i o.journal.events) (o.state.session? i) n := by
  obtain ⟨e, he, -, hi, -⟩ := f.events
  have hn : Events.ofInstance i [(.sessionStart, e)] = [] := by simp [Events.ofInstance, hi]
  rw [he, hn, List.append_nil, f.unchanged]
  exact c

/-- A start that succeeds opens the session of its instance, after the session in another directory
has ended; in the same directory it is a restart. -/
theorem of_succeeded {now : UInt64} {request : StartRequest} {scope : Scope} {address : Address}
    (c : Chronicle i h (r.session? i) n) (hp : Scope.parse? request.gameletName = some scope)
    (s : Succeeded now request scope address r o) :
    Chronicle i (h ++ Events.ofInstance i o.journal.events) (o.state.session? i)
      (n + if scope.instanceId = i ∧
        (r.session? i).map (·.directory) = some request.workstationDirectory then 1 else 0) := by
  obtain ⟨-, hproject, horganization⟩ := Scope.ne_empty_of_parse? hp
  rw [s.events, s.sessions, Events.ofInstance_append, Events.ofInstance_stopped,
    Events.ofInstance_singleton rfl]
  by_cases hi : scope.instanceId = i
  · subst hi
    simp only [if_true, true_and]
    cases hs : r.session? scope.instanceId with
    | none =>
        rw [hs] at c
        exact c.start _ _ _ hproject horganization
    | some old =>
        rw [hs] at c
        by_cases hd : old.directory = request.workstationDirectory
        · -- a restart in place ends nothing
          simp only [Option.filter_some, hd, ne_eq, not_true_eq_false, decide_false,
            Bool.false_eq_true, if_false, Option.map_none, Option.toList_none, List.nil_append,
            Option.map_some, if_true]
          exact c.restart _ _ _ hproject horganization hd.symm
        · -- a move: the old session ends first, in its own directory
          have hn : ¬some old.directory = some request.workstationDirectory :=
            fun e => hd (Option.some.inj e)
          simp only [Option.filter_some, hd, ne_eq, not_false_eq_true, decide_true, if_true,
            Option.map_some, Option.toList_some, hn, if_false, Nat.add_zero]
          rw [← List.append_assoc]
          exact c.stop.start _ _ _ hproject horganization
  · -- both events are about another instance
    have hn : ¬(scope.instanceId = i ∧
        (r.session? i).map (·.directory) = some request.workstationDirectory) := fun e => hi e.1
    rw [if_neg hi, if_neg hi, if_neg (Ne.symm hi), if_neg hn, List.append_nil, List.append_nil]
    exact c

/-- One turn continues the chronicle of every instance. -/
theorem take (c : Chronicle i h (r.session? i) n) (hw : r.WellFormed) (t : Turn) :
    Chronicle i (h ++ Events.ofInstance i (t.take r).journal.events)
      ((t.take r).state.session? i) (n + t.restarts i r) := by
  obtain ⟨isDirectory, now, operation⟩ := t
  cases operation with
  | start tool request =>
      by_cases hg : ∃ scope address, Granted isDirectory tool request scope address
      · obtain ⟨scope, address, g⟩ := hg
        have hs := start_of_granted g now hw
        have hr : Turn.restarts ⟨isDirectory, now, .start tool request⟩ i r =
            if scope.instanceId = i ∧
              (r.session? i).map (·.directory) = some request.workstationDirectory then 1
            else 0 := by
          simp only [Turn.restarts, Turn.take, hs.result, g.parsed, hw.directory_find?,
            Option.map_some, Option.some.injEq, true_and]
        rw [hr]
        exact c.of_succeeded g.parsed hs
      · have hf := start_of_not_granted hg now r
        obtain ⟨e, he⟩ := hf.result
        have hr : Turn.restarts ⟨isDirectory, now, .start tool request⟩ i r = 0 := by
          simp only [Turn.restarts, Turn.take, he, reduceCtorEq, false_and, if_false]
        rw [hr, Nat.add_zero]
        exact c.of_failed hf
  | stop id =>
      have he : (Turn.take ⟨isDirectory, now, .stop id⟩ r).journal.events =
          ((r.session? id).map (Session.stopped id)).toList := by
        change Journal.events (_ ++ (r.stop id).journal ++ conclusion _ _) = _
        rw [Journal.events_append, Journal.events_append, Journal.events_note, events_conclusion,
          Registry.events_stop, List.append_nil, List.nil_append]
      have hs : (Turn.take ⟨isDirectory, now, .stop id⟩ r).state.session? i =
          if i = id then none else r.session? i := hw.session?_stop id i
      rw [he, hs, Events.ofInstance_stopped]
      by_cases hi : i = id
      · subst hi
        rw [if_pos rfl, if_pos rfl]
        exact c.ended
      · rw [if_neg hi, if_neg (Ne.symm hi), List.append_nil]
        exact c
  | shutdown =>
      have he : Events.ofInstance i
          (Turn.take ⟨isDirectory, now, .shutdown⟩ r).journal.events =
            ((r.session? i).map (Session.stopped i)).toList := hw.ofInstance_shutdown i
      rw [he]
      exact c.ended

end Chronicle

theorem Registry.WellFormed.take {r : Registry} (hw : r.WellFormed) (t : Turn) :
    (t.take r).state.WellFormed := by
  obtain ⟨isDirectory, now, operation⟩ := t
  cases operation with
  | start tool request =>
      by_cases hg : ∃ scope address, Granted isDirectory tool request scope address
      · obtain ⟨scope, address, g⟩ := hg
        exact (start_of_granted g now hw).wellFormed
      · have hf : (Turn.take ⟨isDirectory, now, .start tool request⟩ r).state = r :=
          (start_of_not_granted hg now r).unchanged
        rw [hf]
        exact hw
  | stop id => exact hw.stop id
  | shutdown => exact Registry.wellFormed_shutdown r

/-! ### A run -/

theorem Registry.WellFormed.run {r : Registry} (hw : r.WellFormed) (ts : List Turn) :
    (Service.run r ts).1.WellFormed := by
  induction ts generalizing r with
  | nil => exact hw
  | cons t ts ih => exact ih (hw.take t)

/-- A run continues the chronicle of every instance. -/
theorem Chronicle.run {i : String} {h : Events} {n : Nat} {r : Registry}
    (c : Chronicle i h (r.session? i) n) (hw : r.WellFormed) (ts : List Turn) :
    Chronicle i (h ++ Events.ofInstance i (Service.run r ts).2.events)
      ((Service.run r ts).1.session? i) (n + restarts i r ts) := by
  induction ts generalizing r h n with
  | nil =>
      have hn : Events.ofInstance i [] = [] := rfl
      rw [Service.run, Service.restarts, Journal.events_nil, hn, List.append_nil, Nat.add_zero]
      exact c
  | cons t ts ih =>
      have hrest := ih (c.take hw t) (hw.take t)
      rw [Service.run, Service.restarts, Journal.events_append, Events.ofInstance_append,
        ← List.append_assoc, ← Nat.add_assoc]
      exact hrest

namespace Service

/-- The history of an instance over a run. -/
def history (i : String) (r : Registry) (ts : List Turn) : Events :=
  Events.ofInstance i (run r ts).2.events

theorem chronicle_run (config : SessionConfig) (ts : List Turn) (i : String) :
    Chronicle i (history i (Registry.empty config) ts)
      ((run (Registry.empty config) ts).1.session? i) (restarts i (Registry.empty config) ts) := by
  have c : Chronicle i [] ((Registry.empty config).session? i) 0 := .nil
  have hr := c.run (Registry.wellFormed_empty config) ts
  rw [List.nil_append, Nat.zero_add] at hr
  exact hr

theorem run_concat (r : Registry) (ts : List Turn) (t : Turn) :
    (run r (ts ++ [t])).1 = (t.take (run r ts).1).state := by
  induction ts generalizing r with
  | nil => rfl
  | cons t' ts ih => exact ih (t'.take r).state

/-- The balance of an instance: starts less stops and restarts in place. -/
def balance (i : String) (r : Registry) (ts : List Turn) : Int :=
  (history i r ts).starts - (history i r ts).stops - restarts i r ts

theorem balance_eq (config : SessionConfig) (ts : List Turn) (i : String) :
    balance i (Registry.empty config) ts =
      if ((run (Registry.empty config) ts).1.find? i).isSome then 1 else 0 := by
  have hw := (Registry.wellFormed_empty config).run ts
  have hb := (chronicle_run config ts i).balance
  rw [← hw.isSome_find?] at hb
  rw [balance, hb]
  by_cases hf : ((run (Registry.empty config) ts).1.find? i).isSome = true
  · rw [if_pos hf, if_pos hf]
    omega
  · rw [if_neg hf, if_neg hf]
    omega

/-- **The ledger of an instance is balanced.**  Over every run from an empty registry the history of
an instance is well-bracketed; its starts less its stops and its restarts in place are one if the
instance is tracked at the end and none otherwise, and so none after a shutdown. -/
theorem run_balanced (config : SessionConfig) (ts : List Turn) (i : String) :
    WellBracketed (history i (Registry.empty config) ts) ∧
      balance i (Registry.empty config) ts =
        (if ((run (Registry.empty config) ts).1.find? i).isSome then 1 else 0) ∧
      ∀ isDirectory now,
        balance i (Registry.empty config) (ts ++ [⟨isDirectory, now, .shutdown⟩]) = 0 := by
  refine ⟨(chronicle_run config ts i).wellBracketed, balance_eq config ts i,
    fun isDirectory now => ?_⟩
  rw [balance_eq, run_concat]
  rfl

end Service

end Streamkeeper
