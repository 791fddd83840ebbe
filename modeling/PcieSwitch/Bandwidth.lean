import PcieSwitch.Device.Paging
import PcieSwitch.Port.Status
import PcieSwitch.Port.Range

/-!
This module contains the bandwidth counters of the ports.
-/

namespace PcieSwitch

structure Traffic where
  posted : UInt64
  completion : UInt64
  nonPosted : UInt64
  deriving DecidableEq, Repr

namespace Traffic

def zero : Traffic := ⟨0, 0, 0⟩

def total (t : Traffic) : UInt64 :=
  t.posted + t.nonPosted + t.completion

def sub (t u : Traffic) : Traffic :=
  ⟨t.posted - u.posted, t.completion - u.completion, t.nonPosted - u.nonPosted⟩

def read : Read Traffic := do
  let posted ← Read.u64
  let completion ← Read.u64
  let nonPosted ← Read.u64
  return ⟨posted, completion, nonPosted⟩

end Traffic

/--
A snapshot of one port's counters, with the time that they have counted in microseconds.
-/
structure Bandwidth where
  time : UInt64
  egress : Traffic
  ingress : Traffic
  deriving DecidableEq, Repr

namespace Bandwidth

def zero : Bandwidth := ⟨0, .zero, .zero⟩

def sub (b c : Bandwidth) : Bandwidth :=
  ⟨b.time - c.time, b.egress.sub c.egress, b.ingress.sub c.ingress⟩

def read : Read Bandwidth := do
  let time ← Read.u64
  let egress ← Traffic.read
  let ingress ← Traffic.read
  return ⟨time, egress, ingress⟩

def ofReply (count : Nat) (reply : Bytes) : List Bandwidth :=
  reply.read (Read.times count read)

/--
The most ports that one query can name. It and its reply, sent with the table of all ports, share the
space of one command.
-/
def portsPerQuery : Nat :=
  (maxDataLength - (2 + maxPorts * 2)) / Request.bandwidthEntrySize

end Bandwidth

namespace Handle

def bandwidth (h : Handle) (ports : List UInt8) (clear : Bool) : Operation (List Bandwidth) := do
  ofExcept (checkPorts ports)
  Operation.paged (fun page => do
    return Bandwidth.ofReply page.length (← h.request (.bandwidth page clear)))
    (pages Bandwidth.portsPerQuery ports)

def bandwidthOfAll (h : Handle) (clear : Bool) : Operation (List (PortId × Bandwidth)) := do
  let ports := (← h.status).map PortStatus.port
  let snapshots ← h.bandwidth (ports.map PortId.physical) clear
  return ports.zip snapshots

def selectBandwidth (h : Handle) (ports : List UInt8) (kind : BandwidthKind) : Operation Unit := do
  ofExcept (checkPorts ports)
  Operation.pagedOrders (fun page => h.order (.selectBandwidth page kind)) (pages maxPorts ports)

def selectBandwidthOfAll (h : Handle) (kind : BandwidthKind) : Operation Unit := do
  let ports := (← h.status).map fun s => s.port.physical
  h.selectBandwidth ports kind

end Handle
end PcieSwitch
