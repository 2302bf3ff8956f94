import Streamkeeper.Proofs.Session.Flat
import Streamkeeper.Proofs.Session.History

/-!
# Sessions — three ways to end, one event

A stop and a move take the session away and then record its end, from what they took away.  A
shutdown goes through the sessions of a directory the other way round (`MultiSession.endEach`): it
records a blank event, which is filled from the session that is still there, and takes the session
away then.  The rounds before have taken other sessions only, so the lookup finds the scope
(`MultiSession.journal_endEach`).

`Registry.ends_alike`: in every reachable registry each tracked instance has one event that reports
the end of its session, and all three record this event, once.
-/

namespace Streamkeeper

open Telemetry (Event Kind)

/-! ### One multi-session, session by session -/

namespace MultiSession

/-- Ends the sessions of instances one after the other: the end of each is recorded while the session
is still there, and the session is taken away then. -/
def endEach (m : MultiSession) : List String → MultiSession × Journal
  | [] => (m, [])
  | i :: is =>
    (((m.erase i).endEach is).1,
      .recorded .sessionStop (m.sessionEvent Event.empty i) :: ((m.erase i).endEach is).2)

/-- A session that is taken away is not missed by the event of another instance. -/
theorem sessionEvent_erase_of_ne (m : MultiSession) (e : Event) {i j : String} (hj : j ≠ i) :
    (m.erase i).sessionEvent e j = m.sessionEvent e j := by
  rw [sessionEvent, sessionEvent, session?_erase, if_neg hj]
  rfl

/-- Each event is the one that is recorded while all sessions are there. -/
theorem journal_endEach (m : MultiSession) {is : List String} (hn : is.Nodup) :
    (m.endEach is).2 =
      is.map fun i => Entry.recorded .sessionStop (m.sessionEvent Event.empty i) := by
  induction is generalizing m with
  | nil => rfl
  | cons i is ih =>
      obtain ⟨hi, hn⟩ := List.nodup_cons.mp hn
      rw [endEach, List.map_cons, ih (m.erase i) hn]
      refine congrArg _ (List.map_congr_left fun j hj => ?_)
      rw [sessionEvent_erase_of_ne m _ (ne_of_mem_of_not_mem hj hi)]

/-- The sessions that are left are those of other instances. -/
theorem sessions_endEach (m : MultiSession) (is : List String) :
    (m.endEach is).1.sessions = m.sessions.filter fun e => e.1 ∉ is := by
  induction is generalizing m with
  | nil => simp [endEach]
  | cons i is ih =>
      rw [endEach]
      refine (ih (m.erase i)).trans ?_
      rw [erase, Table.remove, List.filter_filter]
      refine List.filter_congr fun e _ => ?_
      simp [Bool.and_comm]

/-- Ending all of them leaves none. -/
theorem sessions_endEach_keys (m : MultiSession) :
    (m.endEach m.sessions.keys).1.sessions = [] := by
  rw [sessions_endEach, List.filter_eq_nil_iff]
  intro e he hn
  exact of_decide_eq_true hn (List.mem_map_of_mem he)

end MultiSession

/-! ### The event of an end -/

/-- What the event of a session's end tells: the instance, the directory that it was tracked in, what
the scope of the session has of a project and an organization, and nothing of a start. -/
structure Telemetry.Event.ReportsEnd (e : Event) (i : String) (s : Session) : Prop where
  instanceId : e.instanceId? = some i
  directory : e.directory? = some s.directory
  project : e.projectId =
    if s.target.scope.projectId = "" then none else some s.target.scope.projectId
  organization : e.organizationId =
    if s.target.scope.organizationId = "" then none else some s.target.scope.organizationId
  start : e.startData? = none

theorem Session.reportsEnd_stopEvent (i : String) (s : Session) :
    (s.stopEvent i).ReportsEnd i s :=
  ⟨rfl, rfl, rfl, rfl, rfl⟩

namespace Registry

variable {r : Registry}

/-- The session of an instance ends with this event, whichever way it ends. -/
structure EndsWith (r : Registry) (i : String) (s : Session) (e : Event) : Prop where
  stop : (r.stop i).result = .ok () ∧ (r.stop i).journal.events = [(.sessionStop, e)]
  /-- A start of the instance in another directory, whatever it starts. -/
  moved : ∀ isDirectory now p, p.scope.instanceId = i → p.directory ≠ s.directory →
    (r.start isDirectory now p).result = .ok () →
    (r.start isDirectory now p).journal.events = [(.sessionStop, e)]
  shutdown : Events.ofInstance i r.shutdown.2.events = [(.sessionStop, e)]

theorem WellFormed.endsWith (h : r.WellFormed) {i : String} {s : Session}
    (hs : r.session? i = some s) : r.EndsWith i s (s.stopEvent i) where
  stop := ⟨result_stop_of_some hs, by rw [events_stop, hs]; rfl⟩
  moved := by
    rintro isDirectory now p rfl hne hok
    have hd : ¬(p.directory = "" ∨ isDirectory = false) := fun hd => by
      rw [start_refused hd] at hok
      cases hok
    have hdisplaced : r.displaced? p = some s := by
      rw [displaced?, hs, Option.filter_some, if_pos (decide_eq_true hne.symm)]
    rw [h.events_start_accepted hd, hdisplaced]
    rfl
  shutdown := by
    rw [h.ofInstance_shutdown, hs]
    rfl

/-- A shutdown ends the sessions of each directory in turn, and each session is still there when its
end is recorded. -/
theorem WellFormed.journal_shutdown (h : r.WellFormed) :
    r.shutdown.2 = r.directories.values.flatMap fun m =>
      (m.endEach m.sessions.keys).2 ++ Journal.note .info .session "multi-session shut down" := by
  rw [shutdown]
  refine List.flatMap_congr fun m hm => ?_
  rw [endJournal, m.journal_endEach (h.multi (h.mem_values_iff.mp hm)).distinct]

theorem WellFormed.length_events_shutdown (h : r.WellFormed) :
    r.shutdown.2.events.length = r.sessionCount := by
  rw [h.events_shutdown, List.length_map, sessionCount_eq]

/-- **However a session ends, the same event is recorded.**  In a reachable registry every tracked
instance has an event that reports the end of its session, which a stop records, a start in another
directory records whatever it starts, and a shutdown records once.  A shutdown records no other
events, although it looks each session up before it takes it away. -/
theorem ends_alike {config : SessionConfig} (h : r.Reachable config) :
    (∀ i s, r.session? i = some s → ∃ e : Event, e.ReportsEnd i s ∧ r.EndsWith i s e) ∧
      r.shutdown.2.events.length = r.sessionCount ∧
      r.shutdown.2 = r.directories.values.flatMap fun m =>
        (m.endEach m.sessions.keys).2 ++ Journal.note .info .session "multi-session shut down" :=
  ⟨fun i s hs => ⟨s.stopEvent i, s.reportsEnd_stopEvent i, h.wellFormed.endsWith hs⟩,
    h.wellFormed.length_events_shutdown, h.wellFormed.journal_shutdown⟩

/-- The session of an instance that moved, with a project and without an organization. -/
theorem ends_alike_after_move :
    let start := fun directory organization => Call.start true 5
      ⟨⟨"a/b/c", "p", organization⟩, ⟨"10.0.0.1", 22⟩, directory⟩
    let r := (runCalls Registry.call (empty .default) [start "/one" "o", start "/two" ""]).1
    let s : Session := ⟨"/two", ⟨"a/b/c", "p", ""⟩, ⟨"10.0.0.1", 22⟩, 5⟩
    r.Reachable .default ∧ r.session? "a/b/c" = some s ∧
      ∃ e : Event, e.ReportsEnd "a/b/c" s ∧ r.EndsWith "a/b/c" s e := by
  intro start r s
  have hr : r.Reachable .default := (Reachable.empty.call (start "/one" "o")).call (start "/two" "")
  have hs : r.session? "a/b/c" = some s := by decide
  exact ⟨hr, hs, (ends_alike hr).1 "a/b/c" s hs⟩

end Registry

end Streamkeeper
