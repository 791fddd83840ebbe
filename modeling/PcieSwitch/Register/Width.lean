import PcieSwitch.Error
import PcieSwitch.Limits

/-!
This module contains the widths that a register can be accessed in.
-/

namespace PcieSwitch

inductive Width where
  | w8
  | w16
  | w32
  | w64
  deriving DecidableEq, Repr

namespace Width

def bytes : Width → Nat
  | .w8 => 1
  | .w16 => 2
  | .w32 => 4
  | .w64 => 8

def ofBytes (n : Nat) : Except Error Width :=
  match n with
  | 1 => .ok .w8
  | 2 => .ok .w16
  | 4 => .ok .w32
  | 8 => .ok .w64
  | _ => .error (.invalidWidth n)

def align (w : Width) (address : Nat) : Nat :=
  address - address % w.bytes

def maxValue (w : Width) : Nat :=
  1 <<< (8 * w.bytes) - 1

end Width
end PcieSwitch
