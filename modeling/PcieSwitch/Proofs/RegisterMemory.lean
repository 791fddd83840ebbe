import Mathlib.Algebra.Group.Nat.Defs
import PcieSwitch.Bytes

/-!
This module contains the theory of a string of bytes as memory: reading a span of it and writing to it, each
of which may be done in pieces that follow each other.
-/

namespace PcieSwitch
namespace Bytes

def slice (bs : Bytes) (offset length : Nat) : Bytes :=
  (bs.drop offset).take length

theorem slice_zero (bs : Bytes) (offset : Nat) : bs.slice offset 0 = [] := by
  apply List.take_zero

theorem length_slice {bs : Bytes} {offset length : Nat} (h : offset + length ≤ bs.length)
    : (bs.slice offset length).length = length := by
  unfold slice
  rw [List.length_take, List.length_drop]
  omega

theorem toNat_lt (bs : Bytes) : bs.toNat < 256 ^ bs.length := by
  induction bs with
  | nil => decide
  | cons b bs ih =>
    have hb : b.toNat < 256 := b.toNat_lt
    rw [toNat, List.length_cons, Nat.pow_succ']
    omega

theorem toNat_word_slice {bs : Bytes} {offset length : Nat} (h : offset + length ≤ bs.length) (hlength : length ≤ 8)
    : (UInt64.ofNat (bs.slice offset length).toNat).toNat = (bs.slice offset length).toNat := by
  apply UInt64.toNat_ofNat_of_lt'
  apply Nat.lt_of_lt_of_le (toNat_lt _)
  rw [length_slice h]
  exact Nat.pow_le_pow_right (by decide) hlength

theorem slice_append (bs : Bytes) (offset m n : Nat)
    : bs.slice offset m ++ bs.slice (offset + m) n = bs.slice offset (m + n) := by
  unfold slice
  rw [List.take_add, List.drop_drop]

theorem overwrite_nil (bs : Bytes) (offset : Nat) : bs.overwrite offset [] = bs := by
  induction bs generalizing offset with
  | nil => cases offset <;> rfl
  | cons b bs ih =>
    cases offset with
    | zero => rfl
    | succ offset => rw [overwrite, ih]

theorem overwrite_append (bs : Bytes) (offset : Nat) (new rest : Bytes)
    : (bs.overwrite offset new).overwrite (offset + new.length) rest
        =
      bs.overwrite offset (new ++ rest) := by
  induction bs generalizing offset new with
  | nil => cases offset <;> rfl
  | cons b bs ih =>
    cases offset with
    | zero =>
      cases new with
      | nil => rw [overwrite_nil, List.length_nil, List.nil_append]
      | cons c new =>
        have htail := ih 0 new
        rw [Nat.zero_add] at htail
        rw [List.cons_append, overwrite, overwrite, List.length_cons, Nat.zero_add, overwrite, htail]
    | succ offset => rw [overwrite, Nat.add_right_comm, overwrite, ih, overwrite]

theorem getElem?_overwrite {bs new : Bytes} {offset : Nat} (h : offset + new.length ≤ bs.length) (i : Nat)
    : (bs.overwrite offset new)[i]?
        =
      if offset ≤ i ∧ i < offset + new.length then new[i - offset]? else bs[i]? := by
  fun_induction overwrite bs offset new generalizing i with
  | case1 => simp_all
  | case2 new b bs offset ih =>
    cases i with
    | zero => simp
    | succ i =>
      have hrest : offset + new.length ≤ bs.length := by
        rw [List.length_cons] at h
        omega
      rw [List.getElem?_cons_succ, List.getElem?_cons_succ, ih hrest, Nat.add_sub_add_right]
      simp only [Nat.succ_eq_add_one, Nat.add_le_add_iff_right, Nat.add_right_comm offset 1, Nat.add_lt_add_iff_right]
  | case3 => simp
  | case4 b bs c new ih =>
    cases i with
    | zero => simp
    | succ i =>
      have hrest : 0 + new.length ≤ bs.length := by
        simp only [List.length_cons] at h
        omega
      rw [List.getElem?_cons_succ, ih hrest]
      simp

theorem getElem?_ofNat (width n i : Nat)
    : (ofNat width n)[i]? = if i < width then some (UInt8.ofNat (n / 256 ^ i)) else none := by
  induction width generalizing n i with
  | zero => simp [ofNat]
  | succ width ih =>
    cases i with
    | zero => simp [ofNat]
    | succ i =>
      rw [ofNat, List.getElem?_cons_succ, ih, Nat.div_div_eq_div_mul, ← Nat.pow_succ']
      simp only [Nat.add_lt_add_iff_right]

end Bytes
end PcieSwitch
