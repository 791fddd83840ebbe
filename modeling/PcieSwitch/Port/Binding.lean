import PcieSwitch.Device.Handle
import PcieSwitch.Port.Range

/-!
This module contains the binding of physical ports to the logical ports of partitions.
-/

namespace PcieSwitch

inductive BindState where
  | success
  | fail
  | inProgress
  | unknown (code : UInt8)
  deriving DecidableEq, Repr

namespace BindState

def ofCode (code : UInt8) : BindState :=
  match code.toNat with
  | 0 => .success
  | 1 => .fail
  | 2 => .inProgress
  | _ => .unknown code

def text : BindState → String
  | .success => "bound"
  | .fail => "failed"
  | .inProgress => "in progress"
  | .unknown code => s!"unknown ({code})"

end BindState

structure BindInfo where
  physical : UInt8
  partition : UInt8
  logical : UInt8
  state : BindState
  deriving DecidableEq, Repr

namespace BindInfo

def read : Read BindInfo := do
  let physical ← Read.u8
  let partition ← Read.u8
  let logical ← Read.u8
  let state ← Read.u8
  return ⟨physical, partition, logical, .ofCode state⟩

/--
A reply starts with the number of its entries. It never has room for more than one per physical port.
-/
def readReply : Read (List BindInfo) := do
  let count ← Read.u8
  Read.skip 3
  Read.times (min count.toNat maxPhysicalPorts) read

end BindInfo

namespace Handle

def bindInfo (h : Handle) (physical : UInt8) : Operation (List BindInfo) := do
  ofExcept (checkPhysicalPort physical)
  return (← h.request (.bindInfo physical)).read BindInfo.readReply

def bind (h : Handle) (partition logical physical : UInt8) : Operation Unit := do
  ofExcept (checkPartition partition)
  ofExcept (checkPhysicalPort physical)
  h.order (.bind partition logical physical)

def unbind (h : Handle) (partition logical : UInt8) : Operation Unit := do
  ofExcept (checkPartition partition)
  h.order (.unbind partition logical)

end Handle
end PcieSwitch
