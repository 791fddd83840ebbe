/-!
This module contains the silicon generations. Some command layouts differ between them.
-/

namespace PcieSwitch

inductive Generation where
  | gen3
  | gen4
  | gen5
  | unknown
  deriving DecidableEq, Repr

namespace Generation

def ofDeviceId (id : UInt16) : Generation :=
  match (id >>> 12).toNat with
  | 0x8 => .gen3
  | 0x4 => .gen4
  | 0x5 => .gen5
  | _ => .unknown

def name : Generation → String
  | .gen3 => "Gen3"
  | .gen4 => "Gen4"
  | .gen5 => "Gen5"
  | .unknown => "Unknown"

def all : List Generation := [.gen3, .gen4, .gen5, .unknown]

end Generation
end PcieSwitch
