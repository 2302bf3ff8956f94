import Streamkeeper.Journal

/-!
# Journals — the parts of a journal, read in order

The recorded events of a journal, its dispatches and its launches are read entry by entry, so what
operations add one after the other is read one after the other.
-/

namespace Streamkeeper.Journal

open Telemetry (Event Kind Route)

@[simp] theorem events_nil : events [] = [] := rfl

@[simp] theorem events_append (j k : Journal) : events (j ++ k) = j.events ++ k.events :=
  List.filterMap_append

@[simp] theorem events_note (level : Level) (channel : Channel) (message : String) :
    events (note level channel message) = [] := rfl

@[simp] theorem events_launched (l : Provisioning.Launch) (j : Journal) :
    events (.launched l :: j) = j.events := rfl

@[simp] theorem events_dispatched (route : Route) (kind : Kind) (e : Event) (j : Journal) :
    events (.dispatched route kind e :: j) = j.events := rfl

@[simp] theorem events_recorded (kind : Kind) (e : Event) (j : Journal) :
    events (.recorded kind e :: j) = (kind, e) :: j.events := rfl

@[simp] theorem dispatches_nil : dispatches [] = [] := rfl

@[simp] theorem dispatches_append (j k : Journal) :
    dispatches (j ++ k) = j.dispatches ++ k.dispatches :=
  List.filterMap_append

@[simp] theorem dispatches_note (level : Level) (channel : Channel) (message : String) :
    dispatches (note level channel message) = [] := rfl

@[simp] theorem dispatches_launched (l : Provisioning.Launch) (j : Journal) :
    dispatches (.launched l :: j) = j.dispatches := rfl

@[simp] theorem dispatches_dispatched (route : Route) (kind : Kind) (e : Event) (j : Journal) :
    dispatches (.dispatched route kind e :: j) = (route, kind, e) :: j.dispatches := rfl

@[simp] theorem launches_nil : launches [] = [] := rfl

@[simp] theorem launches_append (j k : Journal) : launches (j ++ k) = j.launches ++ k.launches :=
  List.filterMap_append

@[simp] theorem launches_note (level : Level) (channel : Channel) (message : String) :
    launches (note level channel message) = [] := rfl

@[simp] theorem launches_launched (l : Provisioning.Launch) (j : Journal) :
    launches (.launched l :: j) = l :: j.launches := rfl

@[simp] theorem launches_dispatched (route : Route) (kind : Kind) (e : Event) (j : Journal) :
    launches (.dispatched route kind e :: j) = j.launches := rfl

@[simp] theorem launches_recorded (kind : Kind) (e : Event) (j : Journal) :
    launches (.recorded kind e :: j) = j.launches := rfl

end Streamkeeper.Journal
