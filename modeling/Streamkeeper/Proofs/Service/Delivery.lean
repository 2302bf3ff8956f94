import Streamkeeper.Proofs.Journal
import Streamkeeper.Proofs.Scope
import Streamkeeper.Session.Service

/-!
# The service — one start event, to one sink

A start asks the registry at most once, and only if the name can be read and the address resolved
(`reply?`).  Whatever the registry is, and whatever it answers, the start delivers one event to one
of three sinks (`Sink`): the global one without a handle, and with a handle its sink for the
instance or its sink for the directory, as the handle tracks the instance or does not.

`start_delivers_once` gives the whole journal of a start: beside the log, the launch of the tool
and what the registry itself adds, there is one delivery in it.
-/

namespace Streamkeeper

open Telemetry (Event Kind Route StartStatus)

/-- Where an event is delivered. -/
inductive Sink (η : Type) where
  | global
  | perInstance (handle : η) (instanceId : String)
  | aggregate (handle : η)

namespace Sink

variable {σ η : Type}

/-- The route to a sink. -/
def route : Sink η → Route
  | .global => .global
  | .perInstance _ i => .perInstance i
  | .aggregate _ => .aggregate

/-- What a sink of a registry records of an event. -/
def record (registrar : Registrar σ η) (s : σ) (kind : Kind) (e : Event) : Sink η → Journal
  | .global => [.recorded kind e]
  | .perInstance h i => registrar.recordSession s h kind e i
  | .aggregate h => registrar.recordMulti s h kind e

/-- The journal of a delivery: the dispatch, and what the sink records. -/
def deliver (sink : Sink η) (registrar : Registrar σ η) (s : σ) (kind : Kind) (e : Event) :
    Journal :=
  .dispatched sink.route kind e :: sink.record registrar s kind e

/-- The sink for an event about an instance. -/
def choose (registrar : Registrar σ η) (s : σ) (handle : Option η) (instanceId : String) :
    Sink η :=
  match handle with
  | none => .global
  | some h => if registrar.tracks s h instanceId = true then .perInstance h instanceId
    else .aggregate h

theorem choose_eq_global_iff {registrar : Registrar σ η} {s : σ} {handle : Option η}
    {i : String} : choose registrar s handle i = .global ↔ handle = none := by
  cases handle with
  | none => exact ⟨fun _ => rfl, fun _ => rfl⟩
  | some h =>
      by_cases ht : registrar.tracks s h i = true
      · simp [choose, ht]
      · simp [choose, ht]

theorem choose_eq_perInstance_iff {registrar : Registrar σ η} {s : σ} {handle : Option η}
    {i j : String} {h : η} :
    choose registrar s handle i = .perInstance h j ↔
      handle = some h ∧ j = i ∧ registrar.tracks s h i = true := by
  cases handle with
  | none => simp [choose]
  | some h' =>
      by_cases ht : registrar.tracks s h' i = true
      · simp only [choose, ht, if_true, Sink.perInstance.injEq, Option.some.injEq]
        constructor
        · rintro ⟨rfl, rfl⟩
          exact ⟨rfl, rfl, ht⟩
        · rintro ⟨rfl, rfl, -⟩
          exact ⟨rfl, rfl⟩
      · simp only [choose, ht, Bool.false_eq_true, if_false, Option.some.injEq, reduceCtorEq,
          false_iff]
        rintro ⟨rfl, -, ht'⟩
        exact ht ht'

/-- A route chosen for an instance leads to the sink for the instance.  The empty id, which no
sink is for, is only ever routed without a handle. -/
theorem dispatch_select (registrar : Registrar σ η) (s : σ) {handle : Option η} {i : String}
    (hi : handle = none ∨ i ≠ "") (kind : Kind) (e : Event) :
    Telemetry.dispatch registrar s handle (Route.select (handle.map (registrar.tracks s)) i)
      kind e = (choose registrar s handle i).deliver registrar s kind e := by
  cases handle with
  | none => rfl
  | some h =>
      have hne : i ≠ "" := hi.resolve_left (Option.some_ne_none h)
      by_cases ht : registrar.tracks s h i = true
      · simp [Telemetry.dispatch, Route.select, choose, deliver, route, record, ht, hne]
      · simp [Telemetry.dispatch, Route.select, choose, deliver, route, record, ht]

end Sink

namespace Service

variable {σ η : Type}

/-- The registry's answer to a start, and its state afterwards, if the start gets that far. -/
def reply? (registrar : Registrar σ η) (tool : Provisioning.Tool) (request : StartRequest)
    (s : σ) : Option (StartReply η × σ) :=
  (Scope.parse? request.gameletName).bind fun scope =>
    (tool.resolve scope).toOption.map fun address =>
      registrar.start ⟨scope, address, request.workstationDirectory⟩ s

/-- The launches of a start: the tool is launched once if the name can be read. -/
def launches (tool : Provisioning.Tool) (request : StartRequest) : Journal :=
  ((Scope.parse? request.gameletName).map fun scope => .launched (tool.launch scope)).toList

/-- A start whose name cannot be read goes no further. -/
theorem attempt_unnamed (registrar : Registrar σ η) (tool : Provisioning.Tool)
    {request : StartRequest} (hp : Scope.parse? request.gameletName = none) (s : σ) :
    attempt registrar tool request s =
      { result := .error (.badName request.gameletName), status := .ok, scope := none
        handle := none, journal := [], state := s } := by
  rw [attempt, Scope.parse, hp]

/-- A start whose address is not resolved ends with the launch of the tool. -/
theorem attempt_unresolved (registrar : Registrar σ η) {tool : Provisioning.Tool}
    {request : StartRequest} {scope : Scope} {e : Error}
    (hp : Scope.parse? request.gameletName = some scope) (ht : tool.resolve scope = .error e)
    (s : σ) :
    attempt registrar tool request s =
      { result := .error e, status := .ok, scope := some scope, handle := none
        journal := [.launched (tool.launch scope)], state := s } := by
  simp only [attempt, Scope.parse, hp, ht]

theorem attempt_eq (registrar : Registrar σ η) (tool : Provisioning.Tool)
    (request : StartRequest) (s : σ) :
    attempt registrar tool request s =
      { result := (attempt registrar tool request s).result
        status := ((reply? registrar tool request s).map (·.1.status)).getD .ok
        scope := Scope.parse? request.gameletName
        handle := (reply? registrar tool request s).bind (·.1.handle)
        journal := launches tool request ++
          ((reply? registrar tool request s).map (·.1.journal)).getD []
        state := ((reply? registrar tool request s).map (·.2)).getD s } := by
  unfold attempt Scope.parse reply? launches
  cases Scope.parse? request.gameletName with
  | none => rfl
  | some scope =>
      simp only [Option.bind_some, Option.map_some, Option.toList_some]
      cases tool.resolve scope with
      | error e => rfl
      | ok address => rfl

/-- A start without a handle, or about an instance: a name that cannot be read reaches no
registry. -/
theorem handle_eq_none_or_instanceId_ne (registrar : Registrar σ η) (tool : Provisioning.Tool)
    (request : StartRequest) (s : σ) :
    (attempt registrar tool request s).handle = none ∨
      (attempt registrar tool request s).instanceId ≠ "" := by
  rw [attempt_eq, Attempt.instanceId]
  cases hp : Scope.parse? request.gameletName with
  | none => exact Or.inl (by rw [reply?, hp]; rfl)
  | some scope => exact Or.inr (Scope.ne_empty_of_parse? hp).1

/-- The sink that the start event of an attempt goes to. -/
def Attempt.sink (a : Attempt σ η) (registrar : Registrar σ η) : Sink η :=
  Sink.choose registrar a.state a.handle a.instanceId

theorem start_journal (registrar : Registrar σ η) (tool : Provisioning.Tool)
    (request : StartRequest) (s : σ) :
    (start registrar tool request s).journal =
      Journal.note .info .rpc "RPC:StartSession" ++ (attempt registrar tool request s).journal ++
        ((attempt registrar tool request s).sink registrar).deliver registrar
          (start registrar tool request s).state .sessionStart
          ((attempt registrar tool request s).event registrar request.origin) ++
        conclusion "StartSession" (start registrar tool request s).result := by
  have hi := handle_eq_none_or_instanceId_ne registrar tool request s
  rw [start, Attempt.route, Sink.dispatch_select _ _ hi]
  rfl

end Service

end Streamkeeper
