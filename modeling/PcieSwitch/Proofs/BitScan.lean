import Mathlib.Algebra.Group.Nat.Defs
import Mathlib.Data.List.Perm.Subperm
import Mathlib.Logic.Function.Iterate
import PcieSwitch.Event.Scan

/-!
This module contains what the scan of a word finds: it ends on every word, and takes each bit that is set once, from
the lowest on.
-/

namespace PcieSwitch
namespace Scan

theorem testBit_lowest {word : UInt64} (h : word ≠ 0) : word.toNat.testBit (lowest word) = true := by
  apply BitVec.getLsbD_true_ctz_of_ne_zero
  intro hzero
  exact h (UInt64.toBitVec_inj.mp hzero)

theorem testBit_of_lt_lowest {word : UInt64} {i : Nat} (h : i < lowest word) : word.toNat.testBit i = false := by
  apply BitVec.getLsbD_false_of_lt_ctz h

theorem lt_of_testBit {word : UInt64} {bit : Nat} (h : word.toNat.testBit bit = true) : bit < 64 := by
  apply Nat.lt_of_not_le
  intro hle
  have hbig : word.toNat < 2 ^ bit := Nat.lt_of_lt_of_le word.toNat_lt (Nat.pow_le_pow_right (by decide) hle)
  rw [Nat.testBit_lt_two_pow hbig] at h
  cases h

theorem split_at_lowest {n b : Nat} (hbit : n.testBit b = true) (hbelow : ∀ i < b, n.testBit i = false)
    : ∃ m, n = 2 ^ (b + 1) * m + 2 ^ b := by
  have hlow : n % 2 ^ (b + 1) = 2 ^ b := by
    apply Nat.eq_of_testBit_eq
    intro i
    rw [Nat.testBit_mod_two_pow, Nat.testBit_two_pow]
    rcases Nat.lt_trichotomy i b with hlt | rfl | hgt
    . rw [hbelow i hlt, Bool.and_false, decide_eq_false (by omega)]
    . rw [hbit, decide_eq_true (by omega), decide_eq_true rfl, Bool.and_true]
    . rw [decide_eq_false (by omega), decide_eq_false (by omega), Bool.false_and]
  refine ⟨n / 2 ^ (b + 1), ?_⟩
  rw [← hlow, Nat.div_add_mod]

theorem testBit_clearLowest {word : UInt64} (h : word ≠ 0) (i : Nat)
    : (clearLowest word).toNat.testBit i = (word.toNat.testBit i && decide (i ≠ lowest word)) := by
  obtain ⟨m, hm⟩ := split_at_lowest (testBit_lowest h) fun _ => testBit_of_lt_lowest
  generalize lowest word = b at hm
  have hpos : 0 < 2 ^ b := Nat.two_pow_pos b
  have hpred : 2 ^ (b + 1) * m + 2 ^ b - 1 = 2 ^ (b + 1) * m + (2 ^ b - 1) := by omega
  have hlt : 2 ^ b < 2 ^ (b + 1) := Nat.pow_lt_pow_right (by decide) (Nat.lt_succ_self b)
  unfold clearLowest
  rw [UInt64.toNat_and, UInt64.toNat_sub_of_le _ _ (one_le h), UInt64.toNat_one, hm, hpred, Nat.testBit_and]
  rw [Nat.testBit_two_pow_mul_add _ hlt, Nat.testBit_two_pow_mul_add _ (by omega)]
  -- both numbers have the same bits behind the lowest one
  by_cases hi : i < b + 1
  . rw [if_pos hi, if_pos hi, Nat.testBit_two_pow, Nat.testBit_two_pow_sub_one]
    rcases Nat.decEq b i with hib | rfl
    . rw [decide_eq_false hib, Bool.false_and, Bool.false_and]
    . have hself : decide (b ≠ b) = false := decide_eq_false fun hne => hne rfl
      rw [decide_eq_false (Nat.lt_irrefl b), hself, Bool.and_false]
  . rw [if_neg hi, if_neg hi, Bool.and_self, decide_eq_true (by omega), Bool.and_true]

theorem mem_bits {word : UInt64} {bit : Nat} : bit ∈ bits word ↔ word.toNat.testBit bit = true := by
  fun_induction bits word with
  | case1 => rw [UInt64.toNat_zero, Nat.zero_testBit, iff_false_right Bool.false_ne_true]; exact List.not_mem_nil
  | case2 word h ih =>
    rw [List.mem_cons, ih, testBit_clearLowest h, Bool.and_eq_true, decide_eq_true_iff]
    constructor
    . rintro (rfl | ⟨htest, _⟩)
      . exact testBit_lowest h
      . exact htest
    . intro htest
      exact (Decidable.em (bit = lowest word)).imp_right fun hne => ⟨htest, hne⟩

theorem pairwise_bits (word : UInt64) : (bits word).Pairwise (· < ·) := by
  fun_induction bits word with
  | case1 => exact List.Pairwise.nil
  | case2 word h ih =>
    refine List.Pairwise.cons ?_ ih
    intro bit hbit
    rw [mem_bits, testBit_clearLowest h, Bool.and_eq_true, decide_eq_true_iff] at hbit
    apply Nat.lt_of_le_of_ne (Nat.le_of_not_lt ?_) (Ne.symm hbit.2)
    intro hlt
    rw [testBit_of_lt_lowest hlt] at hbit
    cases hbit.1

theorem clearLowest_iterate (word : UInt64) : clearLowest^[(bits word).length] word = 0 := by
  fun_induction bits word with
  | case1 => rfl
  | case2 word h ih => rw [List.length_cons, Function.iterate_succ_apply, ih]

theorem length_bits_le (word : UInt64) : (bits word).length ≤ 64 := by
  have hnodup : (bits word).Nodup := (pairwise_bits word).imp Nat.ne_of_lt
  have hsubset : bits word ⊆ List.range 64 := fun _ hbit => List.mem_range.mpr (lt_of_testBit (mem_bits.mp hbit))
  rw [← List.length_range (n := 64)]
  exact (hnodup.subperm hsubset).length_le

end Scan
end PcieSwitch
