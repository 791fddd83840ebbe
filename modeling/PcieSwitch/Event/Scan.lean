/-!
This module contains the scan of a word for its bits. Each round takes the lowest bit that is set and clears it, until
none is left.
-/

namespace PcieSwitch
namespace Scan

def lowest (word : UInt64) : Nat :=
  word.toBitVec.ctz.toNat

def clearLowest (word : UInt64) : UInt64 :=
  word &&& (word - 1)

theorem one_le {word : UInt64} (h : word ≠ 0) : 1 ≤ word := by
  have hpos : word.toNat ≠ 0 := by
    intro hzero
    exact h (UInt64.toNat.inj hzero)
  rw [UInt64.le_iff_toNat_le, UInt64.toNat_one]
  omega

theorem clearLowest_lt {word : UInt64} (h : word ≠ 0) : (clearLowest word).toNat < word.toNat := by
  have hone := one_le h
  have hle : (clearLowest word).toNat ≤ word.toNat - 1 := by
    unfold clearLowest
    rw [UInt64.toNat_and, UInt64.toNat_sub_of_le _ _ hone, UInt64.toNat_one]
    apply Nat.and_le_right
  rw [UInt64.le_iff_toNat_le, UInt64.toNat_one] at hone
  omega

def bits (word : UInt64) : List Nat :=
  if word = 0 then [] else lowest word :: bits (clearLowest word)
  termination_by word.toNat
  decreasing_by exact clearLowest_lt ‹_›

end Scan
end PcieSwitch
