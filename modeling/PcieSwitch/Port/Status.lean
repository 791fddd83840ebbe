import PcieSwitch.Device.Handle
import PcieSwitch.Port.LinkState

/-!
This module contains the status of the switch's ports and its link rates.
-/

namespace PcieSwitch

structure PortId where
  partition : UInt8
  stack : UInt8
  facesHost : Bool
  stackPort : UInt8
  physical : UInt8
  logical : UInt8
  deriving DecidableEq, Repr

structure PortStatus where
  port : PortId
  configuredWidth : UInt8
  negotiatedWidth : UInt8
  linkUp : Bool
  linkRate : UInt8
  state : LinkState
  deriving DecidableEq, Repr

namespace PortStatus

def transferRates : List Float32 := [0.0, 2.5, 5.0, 8.0, 16.0]

def laneRates : List Float32 := [0.0, 250.0, 500.0, 985.0, 1969.0]

def transferRate? (s : PortStatus) : Option Float32 :=
  transferRates[s.linkRate.toNat]?

def dataRate? (s : PortStatus) : Option Float32 :=
  laneRates[s.linkRate.toNat]?.map fun rate => rate * s.negotiatedWidth.toFloat32

/--
One entry of a status reply. Entries that are not in use carry a stack past the last one.
-/
def read : Read (Option PortStatus) := do
  let physical ← Read.u8
  let partition ← Read.u8
  let logical ← Read.u8
  let place ← Read.u8
  let configuredWidth ← Read.u8
  let negotiatedWidth ← Read.u8
  let facesHost ← Read.flag
  let link ← Read.u8
  let state ← Read.u16
  Read.skip 2
  let stack := place >>> 4
  if maxStacks < stack.toNat then
    return none
  return some {
    port := ⟨partition, stack, facesHost, place &&& 0xF, physical, logical⟩
    configuredWidth
    negotiatedWidth
    linkUp := link >>> 7 != 0
    linkRate := link &&& 0x7F
    state := ⟨state⟩
  }

def le (s t : PortStatus) : Bool :=
  if s.port.partition != t.port.partition then s.port.partition < t.port.partition
  else if s.port.facesHost != t.port.facesHost then s.port.facesHost
  else s.port.logical ≤ t.port.logical

/--
The ports that a status reply lists, in the order of a listing. Ports that it does not tell apart keep
their order.
-/
def ofReply (reply : Bytes) : List PortStatus :=
  ((reply.read (Read.times maxPorts read)).filterMap id).mergeSort le

end PortStatus

def Handle.status (h : Handle) : Operation (List PortStatus) := do
  return PortStatus.ofReply (← h.request .linkStatus)

end PcieSwitch
