import PcieSwitch.Device.Interface
import PcieSwitch.Device.Request
import PcieSwitch.Text.Quoted

/-!
This module contains the handle of an open switch, the sending of commands, and the operations that
concern the switch as a whole.
-/

namespace PcieSwitch

structure Handle where
  name : String
  partition : UInt8
  generation : Generation
  directory : Option String := none
  hasEvents : Bool := false
  /-- How many wake-ups one wait for an event sits through before it is given up. -/
  wakeups : Nat := maxWord
  deriving DecidableEq, Repr

namespace Operation

def ask (c : DeviceCall) : Operation c.Answer :=
  ExceptT.lift (Program.call (I := deviceInterface) c)

end Operation

namespace Handle

def text (h : Handle) : String :=
  "Switchtec \x7b name: " ++ Text.quoted h.name ++ s!", partition: {h.partition}, gen: " ++ h.generation.name
    ++ " \x7d"

def log (h : Handle) (message : String) (values : List (String × String)) : Operation Unit :=
  Operation.ask (.log ⟨message, ("device", h.name) :: values⟩)

def send (h : Handle) (c : Command) (payload : Bytes) (replyLength : Nat) : Operation Bytes := do
  if maxDataLength < payload.length then
    throw (.requestTooLarge payload.length)
  if maxDataLength < replyLength then
    throw (.replyTooLarge replyLength)
  h.log "mrpc" [
    ("cmd", c.description),
    ("id", toString c.id),
    ("payload", toString payload.length),
    ("resp", toString replyLength)
  ]
  match ← Operation.ask (.exchange ⟨c.id, payload, replyLength⟩) with
  | .ok reply => return reply.fit replyLength
  | .error e =>
    h.log "mrpc failed" [("cmd", c.description), ("error", e.message)]
    throw e

def request (h : Handle) (r : Request) : Operation Bytes :=
  h.send r.command (r.payload h.generation) r.replyLength

def order (h : Handle) (r : Request) : Operation Unit := do
  let _ ← h.request r

def requestWord (h : Handle) (r : Request) : Operation UInt32 := do
  return (← h.request r).read Read.u32

def askEvents (h : Handle) (c : EventCall) : Operation c.Value := do
  if h.hasEvents then
    ExceptT.mk (Program.call (I := deviceInterface) (.event c))
  else
    throw (.unsupported "switch events")

def echo (h : Handle) (word : UInt32) : Operation UInt32 :=
  h.requestWord (.echo word)

def hardReset (h : Handle) : Operation Unit :=
  h.order .reset

def dieTemperature (h : Handle) : Operation Float32 := do
  h.order .measureTemperature
  let hundredths ← h.requestWord .readTemperature
  return hundredths.toFloat32 / 100

end Handle
end PcieSwitch
