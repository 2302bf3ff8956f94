import Streamkeeper.Proofs.Session.Event
import Streamkeeper.Proofs.Session.Status

/-!
# Sessions — calls about different instances

Calls about different instances meet in the directories: one may open the multi-session that the
other joins, or drop the one that the other leaves.  Nothing of this shows in the lookups by
instance.  A start or a stop answers, records and leaves its own instance as follows from the
session of that instance (`WellFormed.call_congr`), and leaves the session of every other instance
as it is (`WellFormed.session?_call`).

So two such calls give in either order the same verdicts, the same status and the same stop events
(`calls_independent`).  What is not part of a verdict is the number of sessions that a handle counts,
which depends on who came first.
-/

namespace Streamkeeper

open Telemetry (StartStatus)

/-- The instance that a start or a stop is about. -/
def Call.instance? : Call → Option String
  | .start _ _ p => some p.scope.instanceId
  | .stop i => some i
  | .shutdown => none

/-- What an answer says of its call alone: the result, the status of a start, and the directory that
its handle stands for. -/
structure Verdict where
  result : Except Error Unit
  status : Option StartStatus
  directory : Option String

/-- The verdict of an answer. -/
def Answer.verdict : Answer → Verdict
  | .started result status handle => ⟨result, some status, handle.map (·.directory)⟩
  | .stopped result => ⟨result, none, none⟩
  | .ended => ⟨.ok (), none, none⟩

namespace Registry

/-- The journal of a call. -/
def journal (r : Registry) : Call → Journal
  | .start isDirectory now p => (r.start isDirectory now p).journal
  | .stop i => (r.stop i).journal
  | .shutdown => r.shutdown.2

variable {r r' : Registry} {c : Call} {i : String}

/-! ### A call sees and changes the session of its own instance -/

/-- The sessions of other instances are left alone. -/
theorem WellFormed.session?_call (h : r.WellFormed) (hc : c.instance? = some i) {j : String}
    (hj : j ≠ i) : (r.call c).1.session? j = r.session? j := by
  cases c with
  | start isDirectory now p =>
      obtain rfl : p.scope.instanceId = i := Option.some.inj hc
      by_cases hd : p.directory = "" ∨ isDirectory = false
      · rw [call_start_refused hd]
      · rw [call_start_accepted hd, h.session?_started, if_neg hj]
  | stop k =>
      obtain rfl : k = i := Option.some.inj hc
      exact (h.session?_stop k j).trans (if_neg hj)
  | shutdown => cases hc

/-- Registries that agree on the session of an instance agree on what a call about it does. -/
theorem WellFormed.call_congr (h : r.WellFormed) (h' : r'.WellFormed)
    (hc : c.instance? = some i) (hs : r.session? i = r'.session? i) :
    (r.call c).2.verdict = (r'.call c).2.verdict ∧
      (r.journal c).events = (r'.journal c).events ∧
      (r.call c).1.session? i = (r'.call c).1.session? i := by
  cases c with
  | start isDirectory now p =>
      obtain rfl : p.scope.instanceId = i := Option.some.inj hc
      by_cases hd : p.directory = "" ∨ isDirectory = false
      · rw [call_start_refused hd, call_start_refused hd, journal, journal, start_refused hd,
          start_refused hd]
        exact ⟨rfl, rfl, hs⟩
      · have hm : r.displaced? p = r'.displaced? p := by rw [displaced?, displaced?, hs]
        refine ⟨?_, ?_, ?_⟩
        · rw [call_start_accepted hd, call_start_accepted hd]
          simp only [Answer.verdict, report, handle, Option.map_some, h.directory_joined,
            h'.directory_joined]
        · rw [journal, journal, h.events_start_accepted hd, h'.events_start_accepted hd, hm]
        · rw [call_start_accepted hd, call_start_accepted hd, h.session?_started,
            h'.session?_started, if_pos rfl, if_pos rfl]
  | stop k =>
      obtain rfl : k = i := Option.some.inj hc
      refine ⟨?_, ?_, ?_⟩
      · cases hk : r.session? k with
        | none => rw [Registry.call, Registry.call, stop_of_none hk, stop_of_none (hs.symm.trans hk)]
        | some s =>
            rw [Registry.call, Registry.call, result_stop_of_some hk,
              result_stop_of_some (hs.symm.trans hk)]
      · rw [journal, journal, events_stop, events_stop, hs]
      · rw [Registry.call, Registry.call, h.session?_stop, h'.session?_stop, if_pos rfl, if_pos rfl]
  | shutdown => cases hc

/-! ### Two calls in either order -/

/-- Two calls, each of which might as well come first. -/
structure Independent (r : Registry) (a b : Call) : Prop where
  /-- The first call answers after the second what it answers before it. -/
  first : ((r.call b).1.call a).2.verdict = (r.call a).2.verdict
  second : ((r.call a).1.call b).2.verdict = (r.call b).2.verdict
  status : ((r.call a).1.call b).1.status = ((r.call b).1.call a).1.status
  /-- The same events are recorded, each as often. -/
  events : ((r.journal a).events ++ ((r.call a).1.journal b).events).Perm
    ((r.journal b).events ++ ((r.call b).1.journal a).events)

theorem WellFormed.session?_call_call (h : r.WellFormed) {a b : Call} {i j : String}
    (ha : a.instance? = some i) (hb : b.instance? = some j) (hij : i ≠ j) (k : String) :
    ((r.call a).1.call b).1.session? k = ((r.call b).1.call a).1.session? k := by
  have hab := h.call a
  have hba := h.call b
  by_cases hk : k = i
  · -- the call about this instance finds the same session in both orders
    subst hk
    rw [hab.session?_call hb hij]
    exact (h.call_congr hba ha (h.session?_call hb hij).symm).2.2
  · rw [hba.session?_call ha hk]
    by_cases hk' : k = j
    · subst hk'
      exact (hab.call_congr h hb (h.session?_call ha hk)).2.2
    · rw [hab.session?_call hb hk', h.session?_call ha hk, h.session?_call hb hk']

/-- **Calls about different instances are independent.**  In a reachable registry a start or a stop
of one instance and a start or a stop of another, whatever their directories and whether these
exist, have the same verdicts in either order, and lead to the same status and the same recorded
events. -/
theorem calls_independent {config : SessionConfig} (h : r.Reachable config) {a b : Call}
    {i j : String} (ha : a.instance? = some i) (hb : b.instance? = some j) (hij : i ≠ j) :
    r.Independent a b := by
  have hw := h.wellFormed
  have hab := hw.call a
  have hba := hw.call b
  obtain ⟨hfirst, hevents, -⟩ := hba.call_congr hw ha (hw.session?_call hb hij)
  obtain ⟨hsecond, hevents', -⟩ := hab.call_congr hw hb (hw.session?_call ha hij.symm)
  refine ⟨hfirst, hsecond, ?_, ?_⟩
  · refine (hab.call b).status_congr (hba.call a) ?_ (hw.session?_call_call ha hb hij)
    rw [config_call, config_call, config_call, config_call]
  · rw [hevents, hevents']
    exact List.perm_append_comm

/-- Two instances change places: each leaves the directory that the other one moves to. -/
theorem calls_independent_swap :
    let start := fun instanceId directory => Call.start true 5
      ⟨⟨instanceId, "p", "o"⟩, ⟨"10.0.0.1", 22⟩, directory⟩
    let r := (runCalls Registry.call (empty .default) [start "i" "/one", start "j" "/two"]).1
    r.Reachable .default ∧ (start "i" "/two").instance? = some "i" ∧
      (start "j" "/one").instance? = some "j" ∧ "i" ≠ "j" ∧
      r.Independent (start "i" "/two") (start "j" "/one") := by
  intro start r
  have hr : r.Reachable .default := (Reachable.empty.call (start "i" "/one")).call (start "j" "/two")
  have hij : "i" ≠ "j" := by decide
  exact ⟨hr, rfl, rfl, hij, calls_independent hr rfl rfl hij⟩

end Registry

end Streamkeeper
