import Mathlib.Algebra.GroupWithZero.Nat
import PcieSwitch.Wire.Field
import PcieSwitch.Wire.Cursor

/-!
This module contains the theory of byte strings: cutting and filling them to a length, and writing over a
part of them.
-/

namespace PcieSwitch
namespace Bytes

theorem ofNat_mod (width n : Nat) : ofNat width (n % 256 ^ width) = ofNat width n := by
  induction width generalizing n with
  | zero => rfl
  | succ width ih =>
    have hrest : n % 256 ^ (width + 1) / 256 = n / 256 % 256 ^ width := by
      rw [Nat.pow_succ', Nat.mod_mul_right_div_self]
    have hfirst : n % 256 ^ (width + 1) % 256 = n % 256 := by
      rw [Nat.pow_succ', Nat.mod_mul_right_mod]
    have hbyte : UInt8.ofNat (n % 256 ^ (width + 1)) = UInt8.ofNat n := by
      apply UInt8.toNat.inj
      rw [UInt8.toNat_ofNat', UInt8.toNat_ofNat', hfirst]
    rw [ofNat, ofNat, hrest, ih, hbyte]

theorem toNat_ofNat {width n : Nat} (h : n < 256 ^ width) : (ofNat width n).toNat = n := by
  induction width generalizing n with
  | zero =>
    rw [Nat.pow_zero] at h
    rw [ofNat, toNat]
    omega
  | succ width ih =>
    have hrest : n / 256 < 256 ^ width := by
      apply Nat.div_lt_of_lt_mul
      rw [← Nat.pow_succ']
      exact h
    rw [ofNat, toNat, ih hrest, UInt8.toNat_ofNat']
    omega

theorem ofNat_toNat (bs : Bytes) : ofNat bs.length bs.toNat = bs := by
  induction bs with
  | nil => rfl
  | cons b bs ih =>
    have hfirst : UInt8.ofNat (toNat (b :: bs)) = b := by
      apply UInt8.toNat.inj
      rw [toNat, UInt8.toNat_ofNat', Nat.add_mul_mod_self_left, Nat.mod_eq_of_lt b.toNat_lt]
    have hrest : toNat (b :: bs) / 256 = toNat bs := by
      rw [toNat, Nat.add_mul_div_left _ _ (by decide), Nat.div_eq_of_lt b.toNat_lt, Nat.zero_add]
    rw [List.length_cons, ofNat, hfirst, hrest, ih]

theorem fit_eq_self {bs : Bytes} {n : Nat} (h : bs.length = n) : bs.fit n = bs := by
  induction bs generalizing n with
  | nil =>
    rw [← h]
    rfl
  | cons b bs ih =>
    rw [← h, List.length_cons, fit, ih rfl]

theorem fit_eq_take {bs : Bytes} {n : Nat} (h : n ≤ bs.length) : bs.fit n = bs.take n := by
  induction n generalizing bs with
  | zero => rfl
  | succ n ih =>
    cases bs with
    | nil => contradiction
    | cons b bs => rw [fit, List.take_succ_cons, ih (Nat.le_of_succ_le_succ h)]

theorem toNat_fit (bs : Bytes) (n : Nat) : (bs.fit n).toNat = toNat (bs.take n) := by
  induction n generalizing bs with
  | zero => rfl
  | succ n ih =>
    cases bs with
    | nil =>
      rw [fit, toNat, ih, List.take_nil, List.take_nil]
      rfl
    | cons b bs => rw [fit, toNat, ih, List.take_succ_cons, toNat]

theorem take_fit (bs : Bytes) {m n : Nat} (h : m ≤ n) : (bs.fit n).take m = bs.fit m := by
  induction m generalizing bs n with
  | zero => rfl
  | succ m ih =>
    obtain ⟨n, rfl⟩ := Nat.exists_eq_add_one_of_ne_zero (Nat.ne_of_gt (Nat.lt_of_lt_of_le (Nat.succ_pos m) h))
    cases bs with
    | nil => rw [fit, fit, List.take_succ_cons, ih _ (by omega)]
    | cons b bs => rw [fit, fit, List.take_succ_cons, ih _ (by omega)]

theorem drop_fit (bs : Bytes) (m n : Nat) : (bs.fit (m + n)).drop m = Bytes.fit (bs.drop m) n := by
  induction m generalizing bs with
  | zero => rw [Nat.zero_add, List.drop_zero, List.drop_zero]
  | succ m ih =>
    rw [Nat.add_right_comm]
    cases bs with
    | nil => rw [fit, List.drop_succ_cons, ih, List.drop_nil, List.drop_nil]
    | cons b bs => rw [fit, List.drop_succ_cons, ih, List.drop_succ_cons]

@[simp]
theorem ofFields_nil : ofFields [] = [] := by
  rfl

@[simp]
theorem ofFields_cons (field : Field) (fields : List Field)
    : ofFields (field :: fields) = field.encode ++ ofFields fields := by
  apply List.flatMap_cons

theorem ofFields_append (fields others : List Field)
    : ofFields (fields ++ others) = ofFields fields ++ ofFields others := by
  apply List.flatMap_append

theorem length_ofFields (fields : List Field)
    : (ofFields fields).length = (fields.map Field.width).sum := by
  induction fields with
  | nil => rfl
  | cons field rest ih => simp [ih]

theorem ofFields_flatMap (xs : List α) (fields : α → List Field)
    : ofFields (xs.flatMap fields) = (xs.map fun x => ofFields (fields x)).flatten := by
  unfold ofFields
  rw [List.flatMap_assoc, List.flatMap_def]

end Bytes

namespace Field

@[simp]
theorem encode_u8 (value : UInt8) : (Field.u8 value).encode = [value] := by
  change [UInt8.ofNat value.toNat] = [value]
  rw [UInt8.ofNat_toNat]

@[simp]
theorem encode_flag (value : Bool) : (Field.flag value).encode = [value.toUInt8] := by
  apply encode_u8

theorem encode_u32_ofNat (n : Nat) : (Field.u32 (UInt32.ofNat n)).encode = Bytes.ofNat 4 n := by
  rw [encode, UInt32.toNat_ofNat']
  apply Bytes.ofNat_mod 4

@[simp]
theorem encode_bytes (data : Bytes) : (Field.bytes data).encode = data := by
  rfl

end Field
end PcieSwitch
