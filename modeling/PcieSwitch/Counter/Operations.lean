import PcieSwitch.Device.Handle
import PcieSwitch.Port.Range

/-!
This module contains the operations on event counters.
-/

namespace PcieSwitch

namespace CounterSetup

def ofReply (count : Nat) (reply : Bytes) : List CounterSetup :=
  reply.read (Read.times count read)

end CounterSetup

def readCounterValue : Read UInt32 := do
  let value ← Read.u32
  Read.skip 4
  return value

def counterValuesOfReply (count : Nat) (reply : Bytes) : List UInt32 :=
  reply.read (Read.times count readCounterValue)

namespace Handle

def setupCounter (h : Handle) (stack : UInt8) (counter : Nat) (setup : CounterSetup) : Operation Unit := do
  ofExcept (checkCounters stack counter 0)
  h.order (.setupCounter stack (UInt8.ofNat counter) setup)

def queryCounters (h : Handle) (stack : UInt8) (counter count width : Nat) (r : Request)
    : Operation Bytes := do
  ofExcept (checkCounters stack counter count)
  if maxDataLength < count * width then
    throw (.replyTooLarge (count * width))
  h.request r

def counterSetups (h : Handle) (stack : UInt8) (counter count : Nat) : Operation (List CounterSetup) := do
  let reply ← h.queryCounters stack counter count CounterSetup.wireSize
    (.counterSetups stack (UInt8.ofNat counter) (UInt8.ofNat count))
  return CounterSetup.ofReply count reply

def counterValues (h : Handle) (stack : UInt8) (counter count : Nat) (clear : Bool)
    : Operation (List UInt32) := do
  let reply ← h.queryCounters stack counter count Request.counterEntrySize
    (.counterValues stack (UInt8.ofNat counter) (UInt8.ofNat count) clear)
  return counterValuesOfReply count reply

def counters (h : Handle) (stack : UInt8) (counter count : Nat) (clear : Bool)
    : Operation (List (CounterSetup × UInt32)) := do
  let setups ← h.counterSetups stack counter count
  let values ← h.counterValues stack counter count clear
  return setups.zip values

def clearCounter (h : Handle) (stack : UInt8) (counter : Nat) : Operation Unit :=
  h.setupCounter stack counter .cleared

end Handle
end PcieSwitch
