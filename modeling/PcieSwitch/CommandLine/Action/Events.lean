import PcieSwitch.CommandLine.Session
import PcieSwitch.Report.Events
import PcieSwitch.Report.Values

/-!
This module contains the commands that show events and wait for them.
-/

namespace PcieSwitch

namespace Context

def showEvents (c : Context) (h : Handle) (s : Summary) (q : EventQuery) : Session Unit := do
  let records ← Session.within "event_ctl" (Session.perform (h.events s q))
  c.output (Json.list EventRecord.toJson records) (Report.eventLines records)

def events (c : Context) (all reset : Bool) (clear : List Event) : Session Unit := do
  let h ← c.openDevice
  let s ← Session.within "event_summary" (Session.perform h.summary)
  showEvents c h s {
    allPartitions := all
    clearAll := reset
    clear := clear.foldl (fun mask e => mask ||| e.mask) 0
  }

def placeToWait (h : Handle) (event : Event) (partition port : Option UInt32) : Session EventIndex := do
  match event.kind, partition, port with
  | .global, _, _ => return .all
  | .partition, _, some _ => throw .portNotAllowed
  | .partition, none, none => return .all
  | .partition, some p, none => return .only p.toNat
  | .function, none, none => return .all
  | .function, some p, some q =>
    return .only (← Session.within "port" (Session.perform (h.functionOf p q)))
  | .function, _, _ => throw .placeIncomplete

def queryAfterWait : EventIndex → EventQuery
  | .only i => { allPartitions := true, index := some i }
  | _ => { allPartitions := true }

def waitEvent (c : Context) (event : Event) (partition port : Option UInt32) (timeout : Option Nat)
    : Session Unit := do
  let h ← c.openDevice
  let index ← placeToWait h event partition port
  let timeout := timeout.map Nanoseconds.ofMilliseconds
  match ← Session.within "event-wait" (Session.perform (h.waitFor event index timeout)) with
  | none => throw .timeout
  | some s => showEvents c h s (queryAfterWait index)

end Context
end PcieSwitch
