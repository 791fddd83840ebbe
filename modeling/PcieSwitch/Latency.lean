import PcieSwitch.Device.Paging
import PcieSwitch.Port.Range

/-!
This module contains the latency counters of pairs of ports.
-/

namespace PcieSwitch

structure Latency where
  current : UInt16
  maximum : UInt16
  deriving DecidableEq, Repr

namespace Latency

def zero : Latency := ⟨0, 0⟩

def read : Read Latency := do
  let current ← Read.u16
  let maximum ← Read.u16
  return ⟨current, maximum⟩

def ofReply (count : Nat) (reply : Bytes) : List Latency :=
  reply.read (Read.times count read)

def checkPairs : List (UInt8 × UInt8) → Except Error Unit
  | [] => .ok ()
  | (egress, ingress) :: pairs => do
    checkPort egress
    if ingress ≠ anyIngress then
      checkPort ingress
    checkPairs pairs

end Latency

namespace Handle

def setupLatencies (h : Handle) (pairs : List (UInt8 × UInt8)) : Operation Unit := do
  ofExcept (Latency.checkPairs pairs)
  Operation.pagedOrders (fun page => h.order (.setupLatency page)) (pages maxPorts pairs)

def latencies (h : Handle) (ports : List UInt8) (clear : Bool) : Operation (List Latency) := do
  ofExcept (checkPorts ports)
  Operation.paged (fun page => do
    return Latency.ofReply page.length (← h.request (.latency page clear)))
    (pages maxPorts ports)

def latency (h : Handle) (egress : UInt8) (clear : Bool) : Operation Latency := do
  return ((← h.latencies [egress] clear).getLast?).getD .zero

def setupLatency (h : Handle) (egress ingress : UInt8) (clear : Bool) : Operation Unit := do
  h.setupLatencies [(egress, ingress)]
  if clear then
    let _ ← h.latency egress true

end Handle
end PcieSwitch
