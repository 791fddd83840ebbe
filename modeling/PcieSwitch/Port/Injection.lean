import PcieSwitch.Device.Handle
import PcieSwitch.Port.Range

/-!
This module contains the injection of link errors. Each one is a single command that is answered with a
status word.
-/

namespace PcieSwitch

namespace Injection

def maxDllpCrcRate : Nat := 4096
def maxTlpLcrcRate : Nat := 7
def maxSequence : Nat := 4095

def checkValue (what : String) (value max : Nat) : Except Error Unit :=
  if value ≤ max then .ok () else .error (.valueOutOfRange what value max)

end Injection

namespace Handle

open Injection

/--
Send an injection for a port. The values of a request are checked before its port.
-/
def inject (h : Handle) (port : UInt8) (r : Request) : Operation UInt32 := do
  ofExcept (checkPhysicalPort port)
  h.requestWord r

def injectDllp (h : Handle) (port : UInt8) (data : UInt32) : Operation UInt32 :=
  h.inject port (.injectDllp port data)

def injectDllpCrc (h : Handle) (port : UInt8) (enable : Bool) (rate : UInt16) : Operation UInt32 := do
  ofExcept (checkValue "DLLP CRC rate" rate.toNat maxDllpCrcRate)
  h.inject port (.injectDllpCrc port enable rate)

def injectTlpLcrc (h : Handle) (port : UInt8) (enable : Bool) (rate : UInt8) : Operation UInt32 := do
  ofExcept (checkValue "TLP LCRC rate" rate.toNat maxTlpLcrcRate)
  h.inject port (.injectTlpLcrc port enable rate)

def injectTlpSequence (h : Handle) (port : UInt8) : Operation UInt32 :=
  h.inject port (.injectTlpSequence port)

def injectNack (h : Handle) (port : UInt8) (sequence : UInt16) (count : UInt8) : Operation UInt32 := do
  ofExcept (checkValue "sequence number" sequence.toNat maxSequence)
  h.inject port (.injectNack port sequence count)

def injectCreditTimeout (h : Handle) (port : UInt8) : Operation UInt32 := do
  if h.generation ≠ .gen5 then
    throw (.unsupported "credit timeout injection")
  h.inject port (.injectCreditTimeout port)

end Handle
end PcieSwitch
