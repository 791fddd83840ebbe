import PcieSwitch.Error
import PcieSwitch.Limits

/-!
This module contains the checks that a number names a part of the switch.
-/

namespace PcieSwitch

def checkPhysicalPort (port : UInt8) : Except Error Unit :=
  if port.toNat < maxPhysicalPorts then .ok () else .error (.portOutOfRange port.toNat)

def checkPartition (partition : UInt8) : Except Error Unit :=
  if partition.toNat < maxPartitions then .ok () else .error (.partitionOutOfRange partition.toNat)

def checkStack (stack : UInt8) : Except Error Unit :=
  if stack.toNat < maxStacks then .ok () else .error (.stackOutOfRange stack.toNat)

def checkPort (port : UInt8) : Except Error Unit :=
  if port.toNat < maxPorts then .ok () else .error (.portOutOfRange port.toNat)

def checkPorts : List UInt8 → Except Error Unit
  | [] => .ok ()
  | port :: ports => do
    checkPort port
    checkPorts ports

/--
The counters from `counter` on, `count` of them, have to lie in the stack. The end of the range is reported
as at most the largest machine word.
-/
def checkCounters (stack : UInt8) (counter count : Nat) : Except Error Unit := do
  checkStack stack
  let stop := min (counter + count) maxWord
  if counter < maxEventCounters ∧ stop ≤ maxEventCounters then
    return ()
  else
    throw (.counterOutOfRange counter stop maxEventCounters)

end PcieSwitch
