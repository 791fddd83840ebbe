import PcieSwitch.CharDevice.Interface
import PcieSwitch.Wire.Field
import PcieSwitch.Wire.Cursor

/-!
This module contains the sending of commands over the character device. A command is one write of its
number and its payload; its reply is one read of a status word and the data.
-/

namespace PcieSwitch

namespace Exchange

def frame (x : Exchange) : Bytes :=
  .ofFields [.u32 x.command, .bytes x.payload]

def packetLength (x : Exchange) : Nat :=
  4 + x.replyLength

/--
What a packet that was read says to a command. A short packet counts as such, whatever its status.
-/
def ofPacket (x : Exchange) (packet : Bytes) : Except Error Bytes := do
  if packet.length ≠ x.packetLength then
    throw (.shortTransfer packet.length x.packetLength)
  let status := packet.read Read.u32
  if status ≠ 0 then
    throw (.firmware ⟨status⟩)
  return packet.drop 4

def overFile (x : Exchange) : FileWork Bytes := do
  let written ← FileWork.write x.frame
  if written ≠ x.frame.length then
    throw (.shortTransfer written x.frame.length)
  ofExcept (x.ofPacket (← FileWork.read x.packetLength))

end Exchange
end PcieSwitch
