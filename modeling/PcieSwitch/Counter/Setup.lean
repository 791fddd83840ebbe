import PcieSwitch.Wire.Field
import PcieSwitch.Wire.Cursor

/-!
This module contains the setup of one event counter and its nine bytes on the wire.
-/

namespace PcieSwitch

structure CounterSetup where
  portMask : UInt8
  /-- The kinds to count. Only the low 24 bits fit on the wire. -/
  typeMask : UInt32
  egress : Bool
  threshold : UInt32
  deriving DecidableEq, Repr

namespace CounterSetup

def cleared : CounterSetup := ⟨0, 0, false, 0⟩

instance : Inhabited CounterSetup := ⟨cleared⟩

def wireSize : Nat := 9

def fields (s : CounterSetup) : List Field := [
  .u32 (((s.typeMask &&& 0xFFFFFF) <<< 8) ||| s.portMask.toUInt32),
  .flag s.egress,
  .u32 s.threshold
]

def read : Read CounterSetup := do
  let word ← Read.u32
  let egress ← Read.flag
  let threshold ← Read.u32
  return ⟨word.toUInt8, word >>> 8, egress, threshold⟩

def isConfigured (s : CounterSetup) : Bool :=
  s.portMask != 0 && s.typeMask != 0

def bitCount (word : Nat) : Nat :=
  ((List.range 32).filter word.testBit).length

/--
Whether a threshold would not tell what has reached it: several kinds are counted at several ports.
-/
def isAmbiguous (s : CounterSetup) : Bool :=
  s.threshold != 0 && 1 < bitCount s.portMask.toNat && 1 < bitCount s.typeMask.toNat

end CounterSetup
end PcieSwitch
