import Streamkeeper.Provisioning.Resolve
import Streamkeeper.Session.Registry

/-!
The service: starting and stopping sessions on request.

A start reads the gamelet's name, resolves its address and asks the registry, in this order, and
stops at the first failure.  Whatever happens, exactly one start event is dispatched, to the sink
that `Telemetry.Route.select` chooses.  The registry is any `Registrar`; `Registry.registrar` is the
one that keeps the books.
-/

namespace Streamkeeper

open Telemetry (Event Kind Route StartStatus)

/-- What a registry makes of a start: its result, the status it reports and a handle. -/
structure StartReply (η : Type) where
  result : Except Error Unit
  status : StartStatus
  handle : Option η
  journal : Journal

/-- A session registry with states in `σ` and handles in `η`. -/
structure Registrar (σ η : Type) where
  start : StartParams → σ → StartReply η × σ
  stop : String → σ → Except Error Unit × Journal × σ
  sessionCount : σ → η → Nat
  tracks : σ → η → String → Bool
  recordSession : σ → η → Kind → Event → String → Journal
  recordMulti : σ → η → Kind → Event → Journal

namespace Telemetry

/-- Hands an event to its sink.  The route was chosen from the handle, so a route to a handle comes
with one. -/
def dispatch {σ η : Type} (registrar : Registrar σ η) (s : σ) (handle : Option η) (route : Route)
    (kind : Kind) (e : Event) : Journal :=
  .dispatched route kind e ::
    match route, handle with
    | .perInstance id, some h => registrar.recordSession s h kind e id
    | .aggregate, some h => registrar.recordMulti s h kind e
    | _, _ => [.recorded kind e]

end Telemetry

namespace Service

/-- How far a start got: its result and status, the scope if the name could be read, the handle if
the registry gave one, the journal so far, and the state of the registry. -/
structure Attempt (σ η : Type) where
  result : Except Error Unit
  status : StartStatus
  scope : Option Scope
  handle : Option η
  journal : Journal
  state : σ

/-- Reads the name, resolves the address and asks the registry. -/
def attempt {σ η : Type} (registrar : Registrar σ η) (tool : Provisioning.Tool)
    (request : StartRequest) (s : σ) : Attempt σ η :=
  match Scope.parse request.gameletName with
  | .error e =>
    { result := .error e, status := .ok, scope := none, handle := none, journal := [], state := s }
  | .ok scope =>
    match tool.resolve scope with
    | .error e =>
      { result := .error e, status := .ok, scope := some scope, handle := none
        journal := [.launched (tool.launch scope)], state := s }
    | .ok address =>
      let (reply, s) := registrar.start ⟨scope, address, request.workstationDirectory⟩ s
      { result := reply.result, status := reply.status, scope := some scope, handle := reply.handle
        journal := .launched (tool.launch scope) :: reply.journal, state := s }

/-- The instance that a start is about; no instance if the name could not be read. -/
def Attempt.instanceId {σ η : Type} (a : Attempt σ η) : String :=
  (a.scope.map (·.instanceId)).getD ""

/-- The start event of an attempt. -/
def Attempt.event {σ η : Type} (a : Attempt σ η) (registrar : Registrar σ η) (origin : Origin) :
    Event :=
  let e := { Event.sessionStart origin with
    projectId := a.scope.map Scope.projectId
    organizationId := a.scope.map Scope.organizationId }
  e.updateStart fun d => { d with
    statusCode := resultCode a.result
    status := a.status
    concurrentSessions := a.handle.map (registrar.sessionCount a.state) }

/-- The sink of the start event of an attempt. -/
def Attempt.route {σ η : Type} (a : Attempt σ η) (registrar : Registrar σ η) : Route :=
  Route.select (a.handle.map (registrar.tracks a.state)) a.instanceId

/-- What an operation of the service gives. -/
structure Outcome (σ : Type) where
  result : Except Error Unit
  journal : Journal
  state : σ

/-- The record of the end of an operation. -/
def conclusion (operation : String) (result : Except Error Unit) : Journal :=
  match result with
  | .ok _ => Journal.note .info .rpc (operation ++ "() succeeded")
  | .error _ => Journal.note .error .rpc (operation ++ "() failed")

/-- Starts a session. -/
def start {σ η : Type} (registrar : Registrar σ η) (tool : Provisioning.Tool)
    (request : StartRequest) (s : σ) : Outcome σ :=
  let a := attempt registrar tool request s
  { result := a.result
    journal :=
      Journal.note .info .rpc "RPC:StartSession" ++ a.journal ++
      Telemetry.dispatch registrar a.state a.handle (a.route registrar) .sessionStart
        (a.event registrar request.origin) ++
      conclusion "StartSession" a.result
    state := a.state }

/-- Stops the session of a gamelet.  Its events are the registry's concern. -/
def stop {σ η : Type} (registrar : Registrar σ η) (gameletId : String) (s : σ) : Outcome σ :=
  let (result, journal, s) := registrar.stop gameletId s
  { result := result
    journal :=
      Journal.note .info .rpc "RPC:StopSession" ++ journal ++ conclusion "StopSession" result
    state := s }

end Service

namespace Registry

/-- The registry that keeps the books.  `isDirectory` is asked of every directory that is to be
streamed, and `now` is the time of the start. -/
def registrar (isDirectory : String → Bool) (now : UInt64) : Registrar Registry SessionHandle where
  start p r :=
    let o := r.start (isDirectory p.directory) now p
    (⟨o.result, o.status, o.handle, o.journal⟩, o.registry)
  stop id r :=
    let o := r.stop id
    (o.result, o.journal, o.registry)
  sessionCount r h := (r.behind h).sessions.length
  tracks r h id := (r.behind h).tracks id
  recordSession r h kind e id := r.recordSession h kind e id
  recordMulti r h kind e := r.recordMulti h kind e

end Registry

end Streamkeeper
