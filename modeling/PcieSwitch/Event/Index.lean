import PcieSwitch.Event.Basic
import PcieSwitch.Error
import PcieSwitch.Limits

/-!
This module contains the places that an event can be asked about.
-/

namespace PcieSwitch

inductive EventIndex where
  | localPartition
  | all
  | only (index : Nat)
  deriving DecidableEq, Repr

namespace EventIndex

/--
The driver's encoding in a signed word. An index that does not fit wraps around.
-/
def code : EventIndex → Int32
  | .localPartition => -1
  | .all => -2
  | .only index => Int32.ofNat index

def check (event : Event) (index : EventIndex) : Except Error Unit :=
  match event.kind, index with
  | .global, _ => .ok ()
  | _, .all => .ok ()
  | .partition, .localPartition => .ok ()
  | .partition, .only i => if i < maxPartitions then .ok () else .error (.partitionOutOfRange i)
  | .function, .only i => if i < maxFunctions then .ok () else .error (.portOutOfRange i)
  | .function, .localPartition => .error (.invalidEventIndex event.driverName index.code.toInt)

end EventIndex
end PcieSwitch
