import PcieSwitch.Device.Paging
import PcieSwitch.Register.Window

/-!
This module contains the register window as it is reached through commands of the firmware. A long span
takes several commands, each of which starts where the one before ended.
-/

namespace PcieSwitch

namespace Tunnelled

def maxWrite : Nat := maxDataLength - 8

def placed (size offset : Nat) (data : Bytes) : List (Nat × Bytes) :=
  go offset (pages size data)
where
  go (offset : Nat) : List Bytes → List (Nat × Bytes)
    | [] => []
    | piece :: rest => (offset, piece) :: go (offset + piece.length) rest

/--
Read the bytes of a span. The firmware's addresses have 32 bits; what exceeds them is dropped.
-/
def readBytes (h : Handle) (offset length : Nat) : Operation Bytes :=
  go (spans maxDataLength offset length)
where
  go : List (Nat × Nat) → Operation Bytes
    | [] => return []
    | (offset, length) :: rest => do
      let data ← h.request (.readWindow (UInt32.ofNat offset) (UInt32.ofNat length))
      let others ← go rest
      return data ++ others

def writeBytes (h : Handle) (offset : Nat) (data : Bytes) : Operation Unit :=
  go (placed maxWrite offset data)
where
  go : List (Nat × Bytes) → Operation Unit
    | [] => return
    | (offset, piece) :: rest => do
      h.order (.writeWindow (UInt32.ofNat offset) piece)
      go rest

end Tunnelled

def Handle.window (h : Handle) : Window (Program deviceInterface) where
  size := windowSize
  read offset width := do
    return UInt64.ofNat (← Tunnelled.readBytes h offset width.bytes).toNat
  write offset width value :=
    Tunnelled.writeBytes h offset (Bytes.ofNat width.bytes value.toNat)
  readBytes := Tunnelled.readBytes h

end PcieSwitch
