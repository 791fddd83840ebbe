import PcieSwitch.Bytes

/-!
This module contains the reading side of the wire format: a cursor that moves over a reply. A read
past the end sees zeros and moves the cursor all the same, so the position always says how much of
the layout has been consumed.
-/

namespace PcieSwitch

structure Cursor where
  rest : Bytes
  position : Nat
  deriving DecidableEq, Repr

def Cursor.start (data : Bytes) : Cursor :=
  ⟨data, 0⟩

abbrev Read := StateM Cursor

namespace Read

/--
The next `n` bytes, with zeros for those past the end.
-/
def bytes (n : Nat) : Read Bytes := fun cursor =>
  (cursor.rest.fit n, ⟨cursor.rest.drop n, cursor.position + n⟩)

def skip (n : Nat) : Read Unit := fun cursor =>
  ((), ⟨cursor.rest.drop n, cursor.position + n⟩)

def u8 : Read UInt8 := do
  return UInt8.ofNat (← bytes 1).toNat

def u16 : Read UInt16 := do
  return UInt16.ofNat (← bytes 2).toNat

def u32 : Read UInt32 := do
  return UInt32.ofNat (← bytes 4).toNat

def u64 : Read UInt64 := do
  return UInt64.ofNat (← bytes 8).toNat

def flag : Read Bool := do
  return (← u8) != 0

def times (n : Nat) (item : Read α) : Read (List α) :=
  match n with
  | 0 => pure []
  | n + 1 => do
    let first ← item
    let others ← times n item
    return first :: others

end Read

def Bytes.read (data : Bytes) (action : Read α) : α :=
  (action (Cursor.start data)).1

end PcieSwitch
