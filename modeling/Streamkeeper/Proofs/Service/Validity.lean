import Streamkeeper.Proofs.Provisioning.Report
import Streamkeeper.Proofs.Scope
import Streamkeeper.Proofs.Service.Ledger
import Streamkeeper.Proofs.Session.Flat

/-!
# The service — every tracked session is valid

What a session is made of is checked in three places: its scope by the reader of names, its address
by the reader of the tool's output, and its directory by the registry.  A session that passed all
three is *valid* (`Session.Valid`), and only such sessions are started
(`Granted.valid`).  A turn sets no other session (`Registry.AllValid.take`), so after every run
from an empty registry all sessions are valid (`run_allValid`).

`run_sessions_valid` says what that means for the status: a session is listed with a port that can
be connected to, under an instance id of three segments that a stop accepts, and in a directory that
is named; and the registry tracks it under that id, with a project and an organization.
-/

namespace Streamkeeper

namespace Provisioning

theorem bounds_of_port? {n : Int64} {port : UInt16} (h : port? n = some port) :
    1 ≤ port.toNat ∧ port.toNat ≤ 65535 := by
  obtain ⟨hone, hmax, heq⟩ := port?_eq_some_iff.mp h
  omega

theorem bounds_of_address? {output : String} {a : Address} (h : address? output = .ok a) :
    1 ≤ a.port.toNat ∧ a.port.toNat ≤ 65535 := by
  unfold address? at h
  split at h
  · cases h
  · split at h
    · cases h
    · next hport =>
        cases h
        obtain ⟨n, -, hn⟩ := Option.bind_eq_some_iff.mp hport
        exact bounds_of_port? hn

end Provisioning

/-- A session whose parts have passed their checks. -/
structure Session.Valid (s : Session) : Prop where
  directory : s.directory ≠ ""
  scope : s.target.scope.Named
  port : 1 ≤ s.target.address.port.toNat ∧ s.target.address.port.toNat ≤ 65535

/-- All sessions of a registry are valid. -/
def Registry.AllValid (r : Registry) : Prop :=
  ∀ i s, r.session? i = some s → s.Valid

/-- What the report on a session says, and what the registry `r` that gave it does. -/
structure SessionSummary.Valid (r : Registry) (s : SessionSummary) : Prop where
  port : 1 ≤ s.port.toNat ∧ s.port.toNat ≤ 65535
  /-- The instance id splits at its slashes into three segments, none of them empty. -/
  instanceId : ∃ a b c, Scope.segments s.instanceId = [a, b, c] ∧ a ≠ "" ∧ b ≠ "" ∧ c ≠ ""
  directory : s.workstationDirectory ≠ ""
  /-- The session is tracked under the id that it is listed under, and has a project and an
  organization. -/
  tracked : ∃ session, r.session? s.instanceId = some session ∧
    session.target.scope.instanceId = s.instanceId ∧
    Registry.summary session.directory session.target = s ∧
    Scope.IsSegment session.target.scope.projectId ∧
    Scope.IsSegment session.target.scope.organizationId
  /-- A request to stop the instance succeeds. -/
  stops : ∀ isDirectory now,
    (Service.stop (Registry.registrar isDirectory now) s.instanceId r).result = .ok ()

namespace Service

/-- A start that has what it needs makes a valid session. -/
theorem Granted.valid {isDirectory : String → Bool} {tool : Provisioning.Tool}
    {request : StartRequest} {scope : Scope} {address : Address}
    (g : Granted isDirectory tool request scope address) (now : UInt64) :
    Session.Valid ⟨request.workstationDirectory, scope, address, now⟩ :=
  ⟨g.directory.1, Scope.named_of_parse? g.parsed, Provisioning.bounds_of_address? g.reported⟩

end Service

open Service

namespace Registry

variable {r : Registry}

theorem allValid_empty (config : SessionConfig) : (empty config).AllValid :=
  fun _ _ h => nomatch h

theorem AllValid.stop (hv : r.AllValid) (hw : r.WellFormed) (i : String) :
    (r.stop i).registry.AllValid := by
  intro j s hs
  rw [hw.session?_stop] at hs
  by_cases hj : j = i
  · rw [if_pos hj] at hs
    cases hs
  · rw [if_neg hj] at hs
    exact hv j s hs

theorem AllValid.succeeded {now : UInt64} {request : StartRequest} {scope : Scope}
    {address : Address} {o : Outcome Registry} (hv : r.AllValid)
    (s : Succeeded now request scope address r o)
    (hs : Session.Valid ⟨request.workstationDirectory, scope, address, now⟩) :
    o.state.AllValid := by
  intro i session hi
  rw [s.sessions] at hi
  by_cases he : i = scope.instanceId
  · rw [if_pos he] at hi
    cases hi
    exact hs
  · rw [if_neg he] at hi
    exact hv i session hi

/-- A turn sets no session but a valid one. -/
theorem AllValid.take (hv : r.AllValid) (hw : r.WellFormed) (t : Turn) :
    (t.take r).state.AllValid := by
  obtain ⟨isDirectory, now, operation⟩ := t
  cases operation with
  | start tool request =>
      by_cases hg : ∃ scope address, Granted isDirectory tool request scope address
      · obtain ⟨scope, address, g⟩ := hg
        exact hv.succeeded (start_of_granted g now hw) (g.valid now)
      · have hf : (Turn.take ⟨isDirectory, now, .start tool request⟩ r).state = r :=
          (start_of_not_granted hg now r).unchanged
        rw [hf]
        exact hv
  | stop i => exact hv.stop hw i
  | shutdown => exact fun _ _ h => nomatch h

theorem AllValid.run (hv : r.AllValid) (hw : r.WellFormed) (ts : List Turn) :
    (Service.run r ts).1.AllValid := by
  induction ts generalizing r with
  | nil => exact hv
  | cons t ts ih => exact ih (hv.take hw t) (hw.take t)

/-- The reports of a status are those on the sessions that are tracked. -/
theorem WellFormed.mem_status_sessions (hw : r.WellFormed) {s : SessionSummary} :
    s ∈ r.status.sessions ↔
      ∃ i session, r.session? i = some session ∧ summary session.directory session.target = s := by
  have hperm : r.status.sessions.Perm r.summaries := List.mergeSort_perm _ _
  rw [hperm.mem_iff, summaries_eq, List.mem_map]
  constructor
  · rintro ⟨e, he, rfl⟩
    exact ⟨e.1, e.2, hw.mem_sessions.mp he, rfl⟩
  · rintro ⟨i, session, hs, rfl⟩
    exact ⟨⟨i, session⟩, hw.mem_sessions.mpr hs, rfl⟩

/-- The status of a registry whose sessions are valid. -/
theorem AllValid.status (hv : r.AllValid) (hw : r.WellFormed) {s : SessionSummary}
    (hs : s ∈ r.status.sessions) : s.Valid r := by
  obtain ⟨i, session, hi, rfl⟩ := hw.mem_status_sessions.mp hs
  -- it is listed under the instance of its own scope, which is the one it is filed under
  have hid : session.target.scope.instanceId = i := hw.instanceId_of_session? hi
  have hlisted : (summary session.directory session.target).instanceId = i := hid
  have h := hv i session hi
  obtain ⟨a, b, c, hseg, ha, hb, hc⟩ := h.scope.instanceId
  refine ⟨h.port, ⟨a, b, c, hseg, ha.1, hb.1, hc.1⟩, h.directory, ?_, fun _ _ => ?_⟩
  · exact ⟨session, hlisted ▸ hi, rfl, rfl, h.scope.project, h.scope.organization⟩
  · rw [hlisted]
    exact result_stop_of_some hi

end Registry

namespace Service

theorem run_allValid (config : SessionConfig) (ts : List Turn) :
    (run (Registry.empty config) ts).1.AllValid :=
  (Registry.allValid_empty config).run (Registry.wellFormed_empty config) ts

/-- **Every session that a status lists is valid.**  After every run of starts, stops and shutdowns
from an empty registry, whatever the names, the directories and the tool's outputs, a session is
listed with a port from 1 to 65535, an instance id of three segments and a named directory; it is
tracked under that id with a project and an organization, and a stop accepts the id. -/
theorem run_sessions_valid (config : SessionConfig) (ts : List Turn) :
    ∀ s ∈ (run (Registry.empty config) ts).1.status.sessions,
      s.Valid (run (Registry.empty config) ts).1 :=
  fun _ => (run_allValid config ts).status ((Registry.wellFormed_empty config).run ts)

/-- A session that has moved to another directory is listed there, and is valid. -/
theorem run_sessions_valid_moved :
    let tool : Provisioning.Tool :=
      ⟨"ggp", fun _ => ⟨none, ["Host: 10.0.0.1\nPort: 65535".toUTF8.toList], none, 0⟩⟩
    let start := fun directory : String => (⟨fun d => d == directory, 7, .start tool
      ⟨"organizations/o/projects/p/pools/q/gamelets/a/b/c", directory, .cli⟩⟩ : Turn)
    let r := (run (Registry.empty .default) [start "/one", start "/two"]).1
    let s : SessionSummary := ⟨"a/b/c", "/two", "10.0.0.1", 65535, 7⟩
    s ∈ r.status.sessions ∧ s.Valid r := by
  intro tool start r s
  have hs : s ∈ r.status.sessions := List.mem_mergeSort.mpr (by decide +kernel)
  exact ⟨hs, run_sessions_valid .default [start "/one", start "/two"] s hs⟩

end Service

end Streamkeeper
