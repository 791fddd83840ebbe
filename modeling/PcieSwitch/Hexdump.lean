import PcieSwitch.Bytes
import PcieSwitch.Pages
import PcieSwitch.Text.Layout

/-!
This module contains the dump of bytes as hexadecimal numbers and characters, sixteen to a line. A run of
equal lines shows the first and one mark for all others. The bytes come in blocks, so that a large space
can be dumped piece by piece.
-/

namespace PcieSwitch

structure Hexdump where
  address : Nat
  last : Option Bytes
  squeezed : Bool
  deriving DecidableEq, Repr

namespace Hexdump

def lineLength : Nat := 16

def start (address : Nat) : Hexdump :=
  ⟨address, none, false⟩

def shown (b : UInt8) : Char :=
  if 0x20 ≤ b.toNat ∧ b.toNat < 0x7F then Char.ofNat b.toNat else '.'

def line (address : Nat) (data : Bytes) : String :=
  let cell := fun (b : UInt8) => " " ++ Text.hex b.toNat 2
  let left := String.join ((data.take 8).map cell)
  let gap := if 8 < data.length then " " else ""
  let right := String.join ((data.drop 8).map cell)
  let blank := String.ofList (List.replicate (3 * (lineLength - data.length)) ' ')
  Text.hex address 8 ++ " " ++ left ++ gap ++ right ++ blank
    ++ "  |" ++ String.ofList (data.map shown) ++ "|\n"

def feedLine (d : Hexdump) (data : Bytes) : Hexdump × String :=
  let full := if data.length = lineLength then some data else none
  let address := d.address + data.length
  if full.isSome ∧ d.last = full then
    (⟨address, full, true⟩, if d.squeezed then "" else "*\n")
  else
    (⟨address, full, false⟩, line d.address data)

def feedLines (d : Hexdump) : List Bytes → Hexdump × String
  | [] => (d, "")
  | data :: rest =>
    let (d, first) := d.feedLine data
    let (d, others) := d.feedLines rest
    (d, first ++ others)

/--
Dump a block. Every block but the last should be a whole number of lines, so that lines stay aligned.
-/
def feed (d : Hexdump) (data : Bytes) : Hexdump × String :=
  d.feedLines (pages lineLength data)

def finish (d : Hexdump) : String :=
  Text.hex d.address 8 ++ "\n"

end Hexdump
end PcieSwitch
