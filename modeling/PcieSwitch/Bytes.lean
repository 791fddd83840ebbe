/-!
This module contains byte strings and the little-endian form of a number.
-/

namespace PcieSwitch

abbrev Bytes := List UInt8

namespace Bytes

/--
The low `width` bytes of `n`, least significant byte first.
-/
def ofNat (width n : Nat) : Bytes :=
  match width with
  | 0 => []
  | width + 1 => UInt8.ofNat n :: ofNat width (n / 256)

def toNat : Bytes → Nat
  | [] => 0
  | b :: bs => b.toNat + 256 * toNat bs

def zeros (n : Nat) : Bytes :=
  List.replicate n 0

def fit (bs : Bytes) (n : Nat) : Bytes :=
  match n with
  | 0 => []
  | n + 1 =>
    match bs with
    | [] => 0 :: fit [] n
    | b :: bs => b :: fit bs n

def overwrite (bs : Bytes) (offset : Nat) (new : Bytes) : Bytes :=
  match bs, offset with
  | [], _ => []
  | b :: bs, offset + 1 => b :: overwrite bs offset new
  | b :: bs, 0 =>
    match new with
    | [] => b :: bs
    | c :: new => c :: overwrite bs 0 new

@[simp]
theorem length_ofNat (width n : Nat) : (ofNat width n).length = width := by
  induction width generalizing n with
  | zero => rfl
  | succ width ih => simp [ofNat, ih]

@[simp]
theorem length_fit (bs : Bytes) (n : Nat) : (bs.fit n).length = n := by
  induction n generalizing bs with
  | zero => rfl
  | succ n ih => cases bs <;> simp [fit, ih]

@[simp]
theorem length_overwrite (bs : Bytes) (offset : Nat) (new : Bytes) :
    (bs.overwrite offset new).length = bs.length := by
  fun_induction overwrite bs offset new <;> simp_all

end Bytes

def Bytes.utf8? (bs : Bytes) : Option String :=
  String.fromUTF8? (ByteArray.mk bs.toArray)

def Bytes.ofString (s : String) : Bytes :=
  s.toUTF8.toList

end PcieSwitch
