import Mathlib.Data.Finmap
import Streamkeeper.Proofs.Session.Run

/-!
# Sessions — the registry is one flat map

Without the grouping by directory, sessions are a finite map from instances to a directory, a
scope, an address and a time.  `Flat.call` says what a call does to that map and what it answers:
a start is accepted exactly for a directory that is named and exists, and then overwrites the entry
of its instance; a stop takes away the entry of its instance, if there is one; a shutdown takes
away all.

`Registry.run_refines_flat`: over every run from an empty registry the answers are those of the
flat map, and after the run every question about the registry has the flat map's answer
(`Registry.Agrees`).  The registry *represents* the flat map all along (`Represents`): it is
well-formed, and looks up every instance alike.
-/

namespace Streamkeeper

open Telemetry (StartStatus)

/-- Sessions as one map, from instances. -/
abbrev Flat := Finmap fun _ : String => Session

/-- The report on the session of an instance. -/
def Session.summary (instanceId : String) (s : Session) : SessionSummary :=
  { instanceId := instanceId
    workstationDirectory := s.directory
    host := s.target.address.host
    port := s.target.address.port
    startedAt := s.target.startedAt }

namespace Flat

/-- The entries that stream a directory. -/
def inDirectory (f : Flat) (directory : String) : Multiset (Sigma fun _ : String => Session) :=
  f.entries.filter fun e => e.2.directory = directory

/-- One call. -/
def call (f : Flat) : Call → Flat × Answer
  | .start isDirectory now p =>
    if p.directory ≠ "" ∧ isDirectory = true then
      let f' : Flat := f.insert p.scope.instanceId ⟨p.directory, p.scope, p.address, now⟩
      (f', .started (.ok ()) .ok (some ⟨p.directory, (f'.inDirectory p.directory).card⟩))
    else (f, .started (.error (.badDirectory p.directory)) .invalidDirectory none)
  | .stop i =>
    if i ∈ f then (f.erase i, .stopped (.ok ())) else (f, .stopped (.error (.noSession i)))
  | .shutdown => (∅, .ended)

end Flat

namespace Registry

/-- The registry answers every question as the flat map does. -/
structure Agrees (r : Registry) (f : Flat) : Prop where
  /-- The status lists exactly the entries. -/
  sessions : (r.status.sessions : Multiset SessionSummary) =
    f.entries.map fun e => e.2.summary e.1
  /-- Both counts are the size of the map. -/
  count : r.sessionCount = f.keys.card ∧ r.status.sessionCount = f.keys.card
  /-- An instance is found if it has an entry, and in the directory of the entry. -/
  find : ∀ i, (r.find? i).map (·.directory) = (f.lookup i).map (·.directory)
  /-- What is found is the multi-session of that directory. -/
  findMulti : ∀ i, r.find? i = (f.lookup i).bind fun s => r.multiSession? s.directory
  /-- A directory has a multi-session if an entry streams it. -/
  multi : ∀ d, (∃ m, r.multiSession? d = some m) ↔ ∃ i s, f.lookup i = some s ∧ s.directory = d
  /-- The multi-session of a directory is made of the entries that stream it. -/
  multiSessions : ∀ d m, r.multiSession? d = some m →
    m.directory = d ∧ m.sessions.length = (f.inDirectory d).card ∧
      ∀ i t, m.session? i = some t ↔ f.lookup i = some ⟨d, t⟩

/-- The registry is well-formed, and looks up every instance as the flat map does. -/
structure Represents (r : Registry) (f : Flat) : Prop where
  wellFormed : r.WellFormed
  lookup : ∀ i, f.lookup i = r.session? i

variable {r : Registry} {f : Flat}

/-! ### Lists of sessions are the entries -/

theorem Represents.coe_sessions (h : r.Represents f) :
    (r.sessions : Multiset (Sigma fun _ : String => Session)) = f.entries := by
  have hn : r.sessions.Nodup := List.NodupKeys.nodup h.wellFormed.nodupKeys_sessions
  refine (Multiset.Nodup.ext (Multiset.coe_nodup.mpr hn) f.nodup_entries).mpr ?_
  rintro ⟨i, s⟩
  rw [Multiset.mem_coe, h.wellFormed.mem_sessions, ← h.lookup, Finmap.lookup_eq_some_iff]

theorem sessionCount_eq (r : Registry) : r.sessionCount = r.sessions.length := by
  have hfold : ∀ (ms : List MultiSession) (n : Nat),
      ms.foldl (fun n m => n + m.sessions.length) n =
        n + (ms.map fun m => m.sessions.length).sum := by
    intro ms
    induction ms with
    | nil => intro n; rfl
    | cons m ms ih =>
        intro n
        rw [List.foldl_cons, ih, List.map_cons, List.sum_cons, Nat.add_assoc]
  rw [sessionCount, hfold, Nat.zero_add, sessions, List.length_flatMap]
  simp only [List.length_map]

theorem summaries_eq (r : Registry) :
    r.summaries = r.sessions.map fun e => summary e.2.directory e.2.target := by
  simp only [summaries, sessions, Table.values, List.map_flatMap, List.map_map, Function.comp_def]

/-- Sorting the reports loses and adds none. -/
theorem coe_status_sessions (r : Registry) :
    (r.status.sessions : Multiset SessionSummary) = (r.summaries : Multiset SessionSummary) :=
  Multiset.coe_eq_coe.mpr (List.mergeSort_perm _ _)

/-- The multi-session of a directory holds the entries that stream it. -/
theorem Represents.length_multiSession (h : r.Represents f) {d : String} {m : MultiSession}
    (hl : r.multiSession? d = some m) : m.sessions.length = (f.inDirectory d).card := by
  rw [← h.wellFormed.length_sessionsIn hl, Flat.inDirectory, ← h.coe_sessions]
  rfl

/-! ### Every question has the flat map's answer -/

theorem Represents.lookup_eq_some_iff (h : r.Represents f) {i : String} {s : Session} :
    f.lookup i = some s ↔
      ∃ m, r.multiSession? s.directory = some m ∧ m.session? i = some s.target := by
  rw [h.lookup, h.wellFormed.session?_eq_some_iff, target?_eq_some_iff]

theorem Represents.agrees (h : r.Represents f) : r.Agrees f where
  sessions := by
    rw [coe_status_sessions, summaries_eq, ← h.coe_sessions, Multiset.map_coe]
    refine congrArg _ (List.map_congr_left fun e he => ?_)
    have hi := h.wellFormed.instanceId_of_session? (h.wellFormed.mem_sessions.mp he)
    simp only [summary, Session.summary, hi]
  count := by
    have hc : r.sessions.length = f.keys.card := by
      rw [← Multiset.coe_card, h.coe_sessions]
      exact (Multiset.card_map _ _).symm
    refine ⟨(sessionCount_eq r).trans hc, ?_⟩
    have hs : r.status.sessionCount = r.summaries.length := List.length_mergeSort _
    rw [hs, summaries_eq, List.length_map, hc]
  find := fun i => by rw [h.wellFormed.directory_find?, h.lookup]
  findMulti := fun i => by rw [h.wellFormed.find?_eq, h.lookup]
  multi := by
    intro d
    constructor
    · rintro ⟨m, hl⟩
      obtain ⟨⟨i, t⟩, hm⟩ := List.exists_mem_of_ne_nil _ (h.wellFormed.multi hl).occupied
      have ht := (Table.mem_iff_get? (h.wellFormed.multi hl).distinct).mp hm
      exact ⟨i, ⟨d, t⟩, h.lookup_eq_some_iff.mpr ⟨m, hl, ht⟩, rfl⟩
    · rintro ⟨i, s, hs, rfl⟩
      obtain ⟨m, hl, -⟩ := h.lookup_eq_some_iff.mp hs
      exact ⟨m, hl⟩
  multiSessions := by
    intro d m hl
    refine ⟨h.wellFormed.filed hl, h.length_multiSession hl, fun i t => ?_⟩
    rw [h.lookup, h.wellFormed.session?_eq_some_iff, target?_of_multiSession? hl]

/-! ### One call, and a run -/

theorem represents_empty (config : SessionConfig) : (empty config).Represents ∅ :=
  ⟨wellFormed_empty config, fun i => Finmap.lookup_empty i⟩

theorem Represents.started (h : r.Represents f) (now : UInt64) (p : StartParams) :
    (r.started now p).Represents
      (f.insert p.scope.instanceId ⟨p.directory, p.scope, p.address, now⟩) := by
  refine ⟨h.wellFormed.started now p, fun i => ?_⟩
  rw [h.wellFormed.session?_started]
  by_cases hi : i = p.scope.instanceId
  · subst hi
    rw [if_pos rfl, Finmap.lookup_insert]
  · rw [if_neg hi, Finmap.lookup_insert_of_ne _ hi, h.lookup]

theorem Represents.stop (h : r.Represents f) (i : String) :
    (r.stop i).registry.Represents (f.erase i) := by
  refine ⟨h.wellFormed.stop i, fun j => ?_⟩
  rw [h.wellFormed.session?_stop]
  by_cases hj : j = i
  · subst hj
    rw [if_pos rfl, Finmap.lookup_erase]
  · rw [if_neg hj, Finmap.lookup_erase_ne hj, h.lookup]

/-- The handle of an accepted start reports on the entries of its directory. -/
theorem Represents.report_started (h : r.Represents f) (now : UInt64) (p : StartParams) :
    (r.started now p).report (handle (r.joined now p)) =
      ⟨p.directory, (Flat.inDirectory (f.insert p.scope.instanceId
        ⟨p.directory, p.scope, p.address, now⟩) p.directory).card⟩ := by
  have hw := h.wellFormed
  rw [report, hw.behind_handle_joined,
    (h.started now p).length_multiSession (multiSession?_started r now p)]
  exact congrArg (HandleReport.mk · _) (hw.directory_joined now p)

/-- One call, seen from the flat map. -/
theorem Represents.call (h : r.Represents f) (c : Call) :
    (r.call c).2 = (f.call c).2 ∧ (r.call c).1.Represents (f.call c).1 := by
  cases c with
  | start isDirectory now p =>
      by_cases hd : p.directory = "" ∨ isDirectory = false
      · have hf : ¬(p.directory ≠ "" ∧ isDirectory = true) := by
          simpa only [ne_eq, ← Bool.not_eq_false, ← not_or, not_not] using hd
        rw [call_start_refused hd, Flat.call, if_neg hf]
        exact ⟨rfl, h⟩
      · have hf : p.directory ≠ "" ∧ isDirectory = true := by
          simpa only [not_or, Bool.not_eq_false] using hd
        rw [call_start_accepted hd, Flat.call, if_pos hf, h.report_started]
        exact ⟨rfl, h.started now p⟩
  | stop i =>
      by_cases hi : i ∈ f
      · obtain ⟨s, hs⟩ := Finmap.mem_iff.mp hi
        rw [Registry.call, Flat.call, if_pos hi, result_stop_of_some ((h.lookup i).symm.trans hs)]
        exact ⟨rfl, h.stop i⟩
      · have hs : r.session? i = none := (h.lookup i).symm.trans (Finmap.lookup_eq_none.mpr hi)
        rw [Registry.call, Flat.call, if_neg hi, stop_of_none hs]
        exact ⟨rfl, h⟩
  | shutdown => exact ⟨rfl, wellFormed_shutdown r, fun i => Finmap.lookup_empty i⟩

/-- **The registry refines one flat map.**  Every run of calls from an empty registry is answered
as the flat map answers it, and leaves a registry that agrees with the flat map. -/
theorem run_refines_flat (config : SessionConfig) (calls : List Call) :
    (runCalls Registry.call (empty config) calls).2 = (runCalls Flat.call ∅ calls).2 ∧
      (runCalls Registry.call (empty config) calls).1.Agrees (runCalls Flat.call ∅ calls).1 := by
  obtain ⟨ha, hr⟩ := runCalls_simulates (R := Represents) (fun _ _ c h => h.call c)
    (represents_empty config) calls
  exact ⟨ha, hr.agrees⟩

/-- The codes of the two refusals. -/
example (directory instanceId : String) :
    resultCode (α := Unit) (.error (.badDirectory directory)) = .failedPrecondition ∧
      resultCode (α := Unit) (.error (.noSession instanceId)) = .notFound :=
  ⟨rfl, rfl⟩

end Registry

end Streamkeeper
