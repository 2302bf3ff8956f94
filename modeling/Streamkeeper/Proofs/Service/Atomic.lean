import Streamkeeper.Proofs.Service.Delivery
import Streamkeeper.Proofs.Session.Event
import Streamkeeper.Proofs.Session.Run

/-!
# The service — a start is all or nothing

With the registry that keeps the books, a start needs three things: a name that denotes a scope, a
run of the tool that reports an address for it, and a directory that is named and exists
(`Granted`).  A start that lacks one of them leaves the registry as it was and records one event
without instance, directory and count (`Failed`).  A start that has them all sets the session of its
instance, leaves every other alone, and records one event for the instance, after the event of the
session that it ends elsewhere, if there is one (`Succeeded`).

There is no third case (`start_atomic`), and in neither does an event go to a whole directory: the
registry gives a handle only for a session that it has.
-/

namespace Streamkeeper

open Telemetry (Event Kind Route StartStatus)

/-- The tool reports an address if it starts, runs to its end, exits with zero, and its whole output
names the address. -/
theorem Provisioning.addressOf_eq_ok_iff {run : Execution.Behaviour} {a : Address} :
    addressOf run = .ok a ↔
      run.startFailure = none ∧ run.runFailure = none ∧ run.exitCode = 0 ∧
        address? (outputText run.chunks) = .ok a := by
  unfold addressOf report
  cases run.startFailure with
  | some e => simp
  | none =>
      cases run.runFailure with
      | some e => simp
      | none =>
          by_cases hc : run.exitCode = 0
          · cases address? (outputText run.chunks) with
            | ok b => simp [hc]
            | error field => simp [hc]
          · simp [hc]

namespace Service

/-- What a start needs, and what it makes of it. -/
structure Granted (isDirectory : String → Bool) (tool : Provisioning.Tool)
    (request : StartRequest) (scope : Scope) (address : Address) : Prop where
  /-- The name denotes the scope. -/
  parsed : Scope.parse? request.gameletName = some scope
  /-- The tool runs without a failure. -/
  ran : (tool.run (tool.launch scope)).startFailure = none ∧
    (tool.run (tool.launch scope)).runFailure = none ∧
    (tool.run (tool.launch scope)).exitCode = 0
  /-- Its output reports the address. -/
  reported : Provisioning.address? (Provisioning.outputText
    (tool.run (tool.launch scope)).chunks) = .ok address
  /-- The directory is named and exists. -/
  directory : request.workstationDirectory ≠ "" ∧ isDirectory request.workstationDirectory = true

/-- The registry is as it was, and the one event is about no instance, directory or number of
sessions. -/
structure Failed (r : Registry) (o : Outcome Registry) : Prop where
  result : ∃ e, o.result = .error e
  unchanged : o.state = r
  events : ∃ e, o.journal.events = [(.sessionStart, e)] ∧
    o.journal.dispatches.map (·.1) = [.global] ∧
    e.instanceId? = none ∧ e.directory? = none ∧
    e.startData?.bind (·.concurrentSessions) = none

/-- The instance has the session that was asked for, nothing else changes, and the start event is
the session's own. -/
structure Succeeded (now : UInt64) (request : StartRequest) (scope : Scope) (address : Address)
    (r : Registry) (o : Outcome Registry) : Prop where
  result : o.result = .ok ()
  wellFormed : o.state.WellFormed
  config : o.state.config = r.config
  sessions : ∀ i, o.state.session? i =
    if i = scope.instanceId then some ⟨request.workstationDirectory, scope, address, now⟩
    else r.session? i
  /-- One stop event comes first if the instance had a session in another directory. -/
  events : o.journal.events =
    (((r.session? scope.instanceId).filter
        fun s => s.directory ≠ request.workstationDirectory).map
      (Session.stopped scope.instanceId)).toList ++
    [(.sessionStart, Session.startEvent scope.instanceId
      ⟨request.workstationDirectory, scope, address, now⟩ request.origin
      (o.state.sessionsIn request.workstationDirectory).length)]
  dispatches : o.journal.dispatches.map (·.1) = [.perInstance scope.instanceId]

variable {isDirectory : String → Bool} {tool : Provisioning.Tool} {request : StartRequest}
  {scope : Scope} {address : Address} {r : Registry}

/-! ### How far a start gets -/

/-- What the registry is asked for. -/
def params (request : StartRequest) (scope : Scope) (address : Address) : StartParams :=
  ⟨scope, address, request.workstationDirectory⟩

theorem Granted.resolve (g : Granted isDirectory tool request scope address) :
    tool.resolve scope = .ok address :=
  Provisioning.addressOf_eq_ok_iff.mpr ⟨g.ran.1, g.ran.2.1, g.ran.2.2, g.reported⟩

theorem Granted.accepted (g : Granted isDirectory tool request scope address) :
    ¬((params request scope address).directory = "" ∨
      isDirectory (params request scope address).directory = false) := by
  rintro (hd | hd)
  · exact g.directory.1 hd
  · exact Bool.false_ne_true (hd.symm.trans g.directory.2)

/-- A start that reads the name and resolves the address asks the registry. -/
theorem attempt_of_resolve (hp : Scope.parse? request.gameletName = some scope)
    (ht : tool.resolve scope = .ok address) (now : UInt64) (r : Registry) :
    attempt (Registry.registrar isDirectory now) tool request r =
      let o := r.start (isDirectory request.workstationDirectory) now (params request scope address)
      { result := o.result, status := o.status, scope := some scope, handle := o.handle
        journal := .launched (tool.launch scope) :: o.journal, state := o.registry } := by
  simp only [attempt, Scope.parse, hp, ht]
  rfl

/-- A start that has what it needs gets a handle of the registry. -/
theorem Granted.attempt_eq (g : Granted isDirectory tool request scope address) (now : UInt64)
    (r : Registry) :
    attempt (Registry.registrar isDirectory now) tool request r =
      { result := .ok ()
        status := .ok
        scope := some scope
        handle := some (Registry.handle (r.joined now (params request scope address)))
        journal := .launched (tool.launch scope) ::
          (r.start (isDirectory request.workstationDirectory) now
            (params request scope address)).journal
        state := r.started now (params request scope address) } := by
  obtain ⟨hreg, hres, hst, hh⟩ := Registry.start_accepted (r := r) g.accepted now
  rw [attempt_of_resolve g.parsed g.resolve]
  simp only [← hreg, ← hres, ← hst, ← hh]
  rfl

/-- A start that lacks something gets no handle, and nothing has happened but a launch. -/
theorem attempt_of_not_granted
    (hn : ¬∃ scope address, Granted isDirectory tool request scope address) (now : UInt64)
    (r : Registry) :
    (∃ e, (attempt (Registry.registrar isDirectory now) tool request r).result = .error e) ∧
      (attempt (Registry.registrar isDirectory now) tool request r).handle = none ∧
      (attempt (Registry.registrar isDirectory now) tool request r).state = r ∧
      (attempt (Registry.registrar isDirectory now) tool request r).journal.events = [] ∧
      (attempt (Registry.registrar isDirectory now) tool request r).journal.dispatches = [] := by
  cases hp : Scope.parse? request.gameletName with
  | none =>
      rw [attempt_unnamed _ tool hp]
      exact ⟨⟨_, rfl⟩, rfl, rfl, rfl, rfl⟩
  | some scope =>
      cases ht : tool.resolve scope with
      | error e =>
          rw [attempt_unresolved _ hp ht]
          exact ⟨⟨e, rfl⟩, rfl, rfl, rfl, rfl⟩
      | ok address =>
          obtain ⟨h1, h2, h3, hout⟩ := Provisioning.addressOf_eq_ok_iff.mp ht
          have hd : (params request scope address).directory = "" ∨
              isDirectory request.workstationDirectory = false := by
            by_contra hd
            obtain ⟨hne, hex⟩ := not_or.mp hd
            exact hn ⟨scope, address, hp, ⟨h1, h2, h3⟩, hout, hne, by simpa using hex⟩
          rw [attempt_of_resolve hp ht, Registry.start_refused hd]
          exact ⟨⟨_, rfl⟩, rfl, rfl, rfl, rfl⟩

/-! ### What a start does -/

@[simp] theorem events_conclusion (operation : String) (result : Except Error Unit) :
    (conclusion operation result).events = [] := by
  cases result <;> rfl

@[simp] theorem dispatches_conclusion (operation : String) (result : Except Error Unit) :
    (conclusion operation result).dispatches = [] := by
  cases result <;> rfl

section Sinks

variable {σ η : Type} (registrar : Registrar σ η) (s : σ)

/-- Beside what the registry recorded on the way, the one delivery is recorded. -/
theorem events_start :
    (start registrar tool request s).journal.events =
      (attempt registrar tool request s).journal.events ++
        (((attempt registrar tool request s).sink registrar).record registrar
          (attempt registrar tool request s).state .sessionStart
          ((attempt registrar tool request s).event registrar request.origin)).events := by
  simp only [start_journal, Sink.deliver, Journal.events_append, Journal.events_note,
    Journal.events_dispatched, events_conclusion, List.nil_append, List.append_nil]
  rfl

theorem dispatches_start :
    (start registrar tool request s).journal.dispatches =
      (attempt registrar tool request s).journal.dispatches ++
        (((attempt registrar tool request s).sink registrar).route, .sessionStart,
          (attempt registrar tool request s).event registrar request.origin) ::
        (((attempt registrar tool request s).sink registrar).record registrar
          (attempt registrar tool request s).state .sessionStart
          ((attempt registrar tool request s).event registrar request.origin)).dispatches := by
  simp only [start_journal, Sink.deliver, Journal.dispatches_append, Journal.dispatches_note,
    Journal.dispatches_dispatched, dispatches_conclusion, List.nil_append, List.append_nil]
  rfl

end Sinks

theorem start_of_not_granted
    (hn : ¬∃ scope address, Granted isDirectory tool request scope address) (now : UInt64)
    (r : Registry) :
    Failed r (start (Registry.registrar isDirectory now) tool request r) := by
  obtain ⟨hres, hh, hs, he, hd⟩ := attempt_of_not_granted hn now r
  have hsink : (attempt (Registry.registrar isDirectory now) tool request r).sink
      (Registry.registrar isDirectory now) = .global := Sink.choose_eq_global_iff.mpr hh
  refine ⟨hres, hs, (attempt (Registry.registrar isDirectory now) tool request r).event
    (Registry.registrar isDirectory now) request.origin, ?_, ?_, ?_⟩
  · rw [events_start, hsink, he]
    rfl
  · rw [dispatches_start, hsink, hd]
    rfl
  · rw [Attempt.event, hh]
    exact ⟨rfl, rfl, rfl⟩

/-- The sink of a start that has what it needs is its own instance's. -/
theorem Granted.sink_eq (g : Granted isDirectory tool request scope address) (now : UInt64)
    (h : r.WellFormed) :
    (attempt (Registry.registrar isDirectory now) tool request r).sink
        (Registry.registrar isDirectory now) =
      .perInstance (Registry.handle (r.joined now (params request scope address)))
        scope.instanceId := by
  rw [Attempt.sink, g.attempt_eq, Sink.choose_eq_perInstance_iff]
  refine ⟨rfl, rfl, ?_⟩
  change MultiSession.tracks (Registry.behind _ _) _ = true
  rw [h.behind_handle_joined]
  exact MultiSession.tracks_of_session? (h.session?_joined_self now _)

/-- The start event as it is recorded for its instance. -/
theorem Granted.record_eq (g : Granted isDirectory tool request scope address) (now : UInt64)
    (h : r.WellFormed) :
    ((attempt (Registry.registrar isDirectory now) tool request r).sink
        (Registry.registrar isDirectory now)).record (Registry.registrar isDirectory now)
      (attempt (Registry.registrar isDirectory now) tool request r).state .sessionStart
      ((attempt (Registry.registrar isDirectory now) tool request r).event
        (Registry.registrar isDirectory now) request.origin) =
      [.recorded .sessionStart (Session.startEvent scope.instanceId
        ⟨request.workstationDirectory, scope, address, now⟩ request.origin
        ((r.started now (params request scope address)).sessionsIn
          request.workstationDirectory).length)] := by
  have hs : (r.joined now (params request scope address)).session? scope.instanceId =
      some ⟨scope, address, now⟩ := h.session?_joined_self now _
  have hd : (r.joined now (params request scope address)).directory =
      request.workstationDirectory := h.directory_joined now _
  have hl : ((r.started now (params request scope address)).sessionsIn
      request.workstationDirectory).length =
        (r.joined now (params request scope address)).sessions.length :=
    (h.started now _).length_sessionsIn (Registry.multiSession?_started r now _)
  rw [g.sink_eq now h, g.attempt_eq, Sink.record, hl]
  simp only [Registry.registrar, Registry.recordSession, Attempt.event, h.behind_handle_joined,
    Option.map_some, MultiSession.sessionEvent, hs, hd]
  rfl

theorem start_of_granted (g : Granted isDirectory tool request scope address) (now : UInt64)
    (h : r.WellFormed) :
    Succeeded now request scope address r
      (start (Registry.registrar isDirectory now) tool request r) := by
  have ha := g.attempt_eq now r
  have hstate : (start (Registry.registrar isDirectory now) tool request r).state =
      r.started now (params request scope address) := congrArg Attempt.state ha
  have hw := h.started now (params request scope address)
  refine ⟨congrArg Attempt.result ha, hstate ▸ hw, ?_, fun i => ?_, ?_, ?_⟩
  · rw [hstate, Registry.config_started]
  · rw [hstate, h.session?_started]
    rfl
  · have he : (r.start (isDirectory request.workstationDirectory) now
        (params request scope address)).journal.events = _ :=
      h.events_start_accepted g.accepted now
    rw [events_start, g.record_eq now h, ha, hstate, Journal.events_launched, he]
    rfl
  · rw [dispatches_start, g.record_eq now h, g.sink_eq now h, ha, Journal.dispatches_launched,
      Registry.dispatches_start]
    rfl

/-- **A start is all or nothing.**  In every state that the registry can be in, a start that returns
an error leaves the registry as it was and records one event about no session; a start that returns
without one sets the session of the instance that the name denotes, with the address that the tool
reported, and nothing else.  No event goes to a whole directory. -/
theorem start_atomic {config : SessionConfig} {r : Registry} (h : r.Reachable config)
    (isDirectory : String → Bool) (now : UInt64) (tool : Provisioning.Tool)
    (request : StartRequest) :
    let o := start (Registry.registrar isDirectory now) tool request r
    (∀ e, o.result = .error e → Failed r o) ∧
      (o.result = .ok () → ∃ scope address,
        Granted isDirectory tool request scope address ∧
          Succeeded now request scope address r o) ∧
      ∀ d ∈ o.journal.dispatches, d.1 ≠ .aggregate := by
  intro o
  by_cases hg : ∃ scope address, Granted isDirectory tool request scope address
  · obtain ⟨scope, address, g⟩ := hg
    have hs : Succeeded now request scope address r o := start_of_granted g now h.wellFormed
    refine ⟨fun e he => ?_, fun _ => ⟨scope, address, g, hs⟩, fun d hd => ?_⟩
    · rw [hs.result] at he
      cases he
    · have hd' : d.1 ∈ o.journal.dispatches.map (·.1) := List.mem_map_of_mem hd
      rw [hs.dispatches, List.mem_singleton] at hd'
      rw [hd']
      exact Route.noConfusion
  · have hf : Failed r o := start_of_not_granted hg now r
    obtain ⟨e, -, hroutes, -⟩ := hf.events
    refine ⟨fun _ _ => hf, fun he => ?_, fun d hd => ?_⟩
    · obtain ⟨e, hres⟩ := hf.result
      rw [hres] at he
      cases he
    · have hd' : d.1 ∈ o.journal.dispatches.map (·.1) := List.mem_map_of_mem hd
      rw [hroutes, List.mem_singleton] at hd'
      rw [hd']
      exact Route.noConfusion

/-- The first start of a new registry succeeds if the tool finds the gamelet. -/
theorem start_atomic_empty :
    let isDirectory := fun directory => directory == "/assets"
    let tool : Provisioning.Tool :=
      ⟨"ggp", fun _ => ⟨none, ["Host: 10.0.0.1\nPort: 22".toUTF8.toList], none, 0⟩⟩
    let request : StartRequest :=
      ⟨"organizations/o/projects/p/pools/q/gamelets/a/b/c", "/assets", .unknown⟩
    let r := Registry.empty .default
    let o := start (Registry.registrar isDirectory 0) tool request r
    r.Reachable .default ∧
      ∃ scope address, Granted isDirectory tool request scope address ∧
        Succeeded 0 request scope address r o :=
  ⟨.empty, (start_atomic .empty _ _ _ _).2.1 (by decide +kernel)⟩

end Service

end Streamkeeper
