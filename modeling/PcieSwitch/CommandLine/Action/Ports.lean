import PcieSwitch.CommandLine.Session
import PcieSwitch.Report.Ports
import PcieSwitch.Report.Values

/-!
This module contains the commands that concern ports: their status, their traffic and their bindings.
-/

namespace PcieSwitch

namespace Context

def status (c : Context) (reset : Bool) : Session Unit := do
  let h ← c.openDevice
  let ports ← Session.within "status" (Session.perform h.status)
  let counters ← Session.within "bwcntr" (Session.perform (h.bandwidth (ports.map (·.port.physical)) reset))
  let counters := if reset then counters.map fun _ => Bandwidth.zero else counters
  let report := ports.zip counters
  c.output (Json.list (fun (s, b) => Report.statusJson s b) report) (Report.statusLines h.partition report)

/--
The traffic between two listings of the counters, position by position.
-/
def trafficBetween (before after : List (PortId × Bandwidth)) : List (PortId × Bandwidth) :=
  (before.zip after).map fun ((port, old), (_, new)) => (port, new.sub old)

def measureBandwidth (c : Context) (time : Option Nat) (verbose : Bool) : Session Unit := do
  let h ← c.openDevice
  let before ← Session.within "bw" (Session.perform (h.bandwidthOfAll false))
  c.measure time
  let after ← Session.within "bw" (Session.perform (h.bandwidthOfAll false))
  let results := trafficBetween before after
  c.output (Json.list (fun (port, b) => .array [port.toJson, b.toJson]) results)
    (Report.bandwidthLines h.partition verbose results)

def selectBandwidth (c : Context) (kind : BandwidthKind) : Session Unit := do
  let h ← c.openDevice
  Session.within "bw-type" (Session.perform (h.selectBandwidthOfAll kind))

def measureLatency (c : Context) (time : Option Nat) (egress ingress : UInt8) : Session Unit := do
  let h ← c.openDevice
  Session.within "latency" (Session.perform (h.setupLatency egress ingress true))
  c.measure time
  let latency ← Session.within "latency" (Session.perform (h.latency egress false))
  c.output latency.toJson (Report.latencyLines latency)

def bindInfo (c : Context) (physical : UInt8) : Session Unit := do
  let h ← c.openDevice
  let infos ← Session.within "bind_info" (Session.perform (h.bindInfo physical))
  c.output (Json.list BindInfo.toJson infos) (Report.bindLines physical infos)

def bind (c : Context) (partition logical physical : UInt8) : Session Unit := do
  let h ← c.openDevice
  Session.within "bind" (Session.perform (h.bind partition logical physical))

def unbind (c : Context) (partition logical : UInt8) : Session Unit := do
  let h ← c.openDevice
  Session.within "unbind" (Session.perform (h.unbind partition logical))

end Context
end PcieSwitch
