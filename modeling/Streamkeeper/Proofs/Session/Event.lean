import Streamkeeper.Proofs.Journal
import Streamkeeper.Proofs.Session.Step

/-!
# Sessions — the events of a session

A session that the service starts has its start event (`Session.startEvent`).  It ends when it is
stopped, when its instance starts in another directory, and when all sessions are shut down.  The
stop event is built differently in each case, from the session that was just taken away or from the
one that is still there, and it is the same event (`Session.stopEvent`): it names the instance and
the directory, and has the project and the organization of the session that ended.

So the events of a call follow from the sessions before it: `events_stop`,
`events_start_accepted` and `events_shutdown`.
-/

namespace Streamkeeper

open Telemetry (Event Kind)

/-- The event of the start of an instance's session, with the number of sessions that stream its
directory. -/
def Session.startEvent (instanceId : String) (s : Session) (origin : Origin) (count : Nat) :
    Event :=
  { projectId := some s.target.scope.projectId
    organizationId := some s.target.scope.organizationId
    manager := some
      { start := some
          { statusCode := .ok, status := .ok, origin := origin, concurrentSessions := some count }
        instanceId := some instanceId
        directory := some s.directory } }

/-- The event of the end of an instance's session. -/
def Session.stopEvent (instanceId : String) (s : Session) : Event :=
  { projectId := Event.nonEmpty s.target.scope.projectId
    organizationId := Event.nonEmpty s.target.scope.organizationId
    manager := some
      { start := none, instanceId := some instanceId, directory := some s.directory } }

/-- The entry of the end of an instance's session among the recorded events. -/
def Session.stopped (instanceId : String) (s : Session) : Kind × Event :=
  (.sessionStop, s.stopEvent instanceId)

namespace MultiSession

/-- After a session has left, its stop event has its own scope. -/
theorem sessionEvent_erase (m : MultiSession) (t : SessionTarget) (i : String) :
    (m.erase i).sessionEvent (Event.sessionStop t.scope) i =
      Session.stopEvent i ⟨m.directory, t⟩ := by
  have hs : (m.erase i).session? i = none := by rw [session?_erase, if_pos rfl]
  rw [sessionEvent, hs]
  rfl

/-- Before a session leaves, a blank event is filled with its scope. -/
theorem sessionEvent_empty {m : MultiSession} {t : SessionTarget} {i : String}
    (hs : m.session? i = some t) :
    m.sessionEvent Event.empty i = Session.stopEvent i ⟨m.directory, t⟩ := by
  rw [sessionEvent, hs]
  rfl

end MultiSession

namespace Registry

variable {r : Registry}

/-- The session that a start ends in another directory. -/
def displaced? (r : Registry) (p : StartParams) : Option Session :=
  (r.session? p.scope.instanceId).filter fun s => s.directory ≠ p.directory

/-- The multi-session that a start takes a session out of, and the session. -/
def moved? (r : Registry) (p : StartParams) : Option (MultiSession × SessionTarget) :=
  (r.holderElsewhere? p.directory p.scope.instanceId).bind fun m =>
    (m.session? p.scope.instanceId).map fun t => (m, t)

theorem WellFormed.moved?_eq (h : r.WellFormed) (p : StartParams) :
    (r.moved? p).map (fun e => ⟨e.1.directory, e.2⟩) = r.displaced? p := by
  ext s
  simp only [moved?, displaced?, Option.filter_eq_some_iff, Option.bind_eq_some_iff,
    Option.map_eq_some_iff, Prod.exists, Prod.mk.injEq, h.holderElsewhere?_eq_some_iff,
    h.session?_eq_some_iff, target?_eq_some_iff, decide_eq_true_eq]
  constructor
  · rintro ⟨m, t, ⟨m', ⟨hl, hd, -⟩, t', ht, rfl, rfl⟩, rfl⟩
    exact ⟨⟨m', hl, ht⟩, hd⟩
  · rintro ⟨⟨m, hl, ht⟩, hd⟩
    have hm := h.filed hl
    exact ⟨m, s.target, ⟨m, ⟨hm.symm ▸ hl, hm.symm ▸ hd, MultiSession.tracks_of_session? ht⟩,
      s.target, ht, rfl, rfl⟩, by rw [hm]⟩

theorem journal_start_accepted {isDirectory : Bool} {p : StartParams}
    (hd : ¬(p.directory = "" ∨ isDirectory = false)) (now : UInt64) :
    ∃ replaced : Bool, (r.start isDirectory now p).journal =
      ((r.moved? p).map fun e => movedJournal e.1 e.2 p.scope.instanceId).getD [] ++
        (if replaced then Journal.note .warn .session "restarted existing session" else []) ++
        Journal.note .info .session "session started" := by
  rw [Registry.start, if_neg hd]
  exact ⟨_, rfl⟩

/-! ### The events of each call -/

theorem events_stop (r : Registry) (i : String) :
    (r.stop i).journal.events = ((r.session? i).map (Session.stopped i)).toList := by
  cases ht : r.tracked? i with
  | none =>
      have hs : r.session? i = none := by rw [session?, ht, Option.map_none]
      rw [stop_of_none hs, hs]
      rfl
  | some e =>
      obtain ⟨m, t⟩ := e
      have hs : r.session? i = some ⟨m.directory, t⟩ := by rw [session?, ht, Option.map_some]
      rw [stop, ht, hs]
      simp only [Journal.events_append, Journal.events_recorded, Journal.events_note,
        MultiSession.sessionEvent_erase, Session.stopped, Journal.events_nil, List.append_nil,
        Option.map_some, Option.toList_some]

theorem WellFormed.events_start_accepted (h : r.WellFormed) {isDirectory : Bool}
    {p : StartParams} (hd : ¬(p.directory = "" ∨ isDirectory = false)) (now : UInt64) :
    (r.start isDirectory now p).journal.events =
      ((r.displaced? p).map (Session.stopped p.scope.instanceId)).toList := by
  obtain ⟨replaced, hj⟩ := journal_start_accepted (r := r) hd now
  have hr : Journal.events (if replaced = true then
      Journal.note .warn .session "restarted existing session" else []) = [] := by
    cases replaced <;> rfl
  rw [hj, Journal.events_append, Journal.events_append, Journal.events_note, hr, ← h.moved?_eq]
  cases r.moved? p with
  | none => rfl
  | some e =>
      simp only [Option.map_some, Option.getD_some, movedJournal, Journal.events_append,
        Journal.events_note, List.nil_append, Journal.events_recorded, Journal.events_nil,
        List.append_nil, MultiSession.sessionEvent_erase, Session.stopped, Option.toList_some]

/-- The registry records events of its own, and hands none to a sink. -/
theorem dispatches_start (r : Registry) (isDirectory : Bool) (now : UInt64) (p : StartParams) :
    (r.start isDirectory now p).journal.dispatches = [] := by
  by_cases hd : p.directory = "" ∨ isDirectory = false
  · rw [start_refused hd, Journal.dispatches_nil]
  · obtain ⟨replaced, hj⟩ := journal_start_accepted (r := r) hd now
    rw [hj]
    cases r.moved? p <;> cases replaced <;> rfl

/-- A shutdown ends every session, each once. -/
theorem WellFormed.events_shutdown (h : r.WellFormed) :
    r.shutdown.2.events = r.sessions.map fun e => e.2.stopped e.1 := by
  have hm : ∀ m ∈ r.directories.values,
      (endJournal m).events = m.sessions.map fun e => Session.stopped e.1 ⟨m.directory, e.2⟩ := by
    intro m hm
    have hw := h.multi (h.mem_values_iff.mp hm)
    rw [endJournal, Journal.events_append, Journal.events_note, List.append_nil, Journal.events,
      List.filterMap_map, Table.keys, List.filterMap_map, ← List.filterMap_eq_map]
    refine List.filterMap_congr fun e he => ?_
    have hs : m.session? e.1 = some e.2 := (Table.mem_iff_get? hw.distinct).mp he
    simp only [Function.comp_apply, MultiSession.sessionEvent_empty hs, Session.stopped]
  rw [shutdown, sessions, List.map_flatMap, Journal.events, List.filterMap_flatMap]
  refine List.flatMap_congr fun m hmem => ?_
  rw [List.map_map]
  exact hm m hmem

end Registry

end Streamkeeper
