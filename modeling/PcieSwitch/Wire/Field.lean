import PcieSwitch.Bytes

/-!
This module contains the fields that requests are laid out in. Fields follow each other without
padding, and words are little-endian.
-/

namespace PcieSwitch

inductive Field where
  | u8 (value : UInt8)
  | u16 (value : UInt16)
  | u32 (value : UInt32)
  | u64 (value : UInt64)
  | zeros (count : Nat)
  | bytes (data : Bytes)
  deriving DecidableEq, Repr

namespace Field

def width : Field → Nat
  | .u8 _ => 1
  | .u16 _ => 2
  | .u32 _ => 4
  | .u64 _ => 8
  | .zeros count => count
  | .bytes data => data.length

def encode : Field → Bytes
  | .u8 value => .ofNat 1 value.toNat
  | .u16 value => .ofNat 2 value.toNat
  | .u32 value => .ofNat 4 value.toNat
  | .u64 value => .ofNat 8 value.toNat
  | .zeros count => .zeros count
  | .bytes data => data

def flag (value : Bool) : Field :=
  .u8 value.toUInt8

@[simp]
theorem length_encode (field : Field) : field.encode.length = field.width := by
  cases field <;> simp [encode, width, Bytes.zeros]

end Field

def Bytes.ofFields (fields : List Field) : Bytes :=
  fields.flatMap Field.encode

end PcieSwitch
