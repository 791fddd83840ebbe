import Mathlib.Data.String.Basic
import PcieSwitch.Proofs.WrittenText

/-!
This module contains the order of text by its bytes. It is the order by characters, because the bytes of a lesser
character come before those of a greater one, whatever follows them.
-/

namespace PcieSwitch

namespace Utf8

def following (code : Nat) : Nat :=
  if code ≤ 0x7F then 0 else if code ≤ 0x7FF then 1 else if code ≤ 0xFFFF then 2 else 3

def first (code : Nat) : Nat :=
  if code ≤ 0x7F then code
  else if code ≤ 0x7FF then code / 0x40 % 0x20 + 0xC0
  else if code ≤ 0xFFFF then code / 0x1000 % 0x10 + 0xE0
  else code / 0x40000 % 0x08 + 0xF0

def rest (count code : Nat) : List UInt8 :=
  match count with
  | 0 => []
  | count + 1 => rest count (code / 0x40) ++ [UInt8.ofNat (code % 0x40 + 0x80)]

theorem utf8EncodeChar_eq (c : Char)
    : String.utf8EncodeChar c = UInt8.ofNat (first c.toNat) :: rest (following c.toNat) c.toNat := by
  unfold String.utf8EncodeChar Char.toNat first following
  dsimp only
  split_ifs
  . rfl
  . rfl
  . rfl
  . simp only [rest, Nat.div_div_eq_div_mul, List.nil_append, List.cons_append]

theorem rest_append_lt {count code other : Nat} (h : code < other)
    (hsame : code / 0x40 ^ count = other / 0x40 ^ count) (xs ys : List UInt8)
    : rest count code ++ xs < rest count other ++ ys := by
  induction count generalizing code other xs ys with
  | zero =>
    rw [Nat.pow_zero, Nat.div_one, Nat.div_one] at hsame
    omega
  | succ count ih =>
    rw [Nat.pow_succ', ← Nat.div_div_eq_div_mul, ← Nat.div_div_eq_div_mul] at hsame
    rw [rest, rest, List.append_assoc, List.append_assoc]
    by_cases hlt : code / 0x40 < other / 0x40
    . exact ih hlt hsame _ _
    . -- the codes are the same but for their last six bits
      have heq : code / 0x40 = other / 0x40 := by omega
      rw [heq]
      apply List.append_left_lt
      apply List.cons_lt_cons_iff.mpr
      left
      rw [UInt8.lt_iff_toNat_lt, UInt8.toNat_ofNat', UInt8.toNat_ofNat']
      omega

theorem first_lt_or_same {code other : Nat} (h : code < other) (hother : other < 0x110000)
    : first code < first other
        ∨
      first code = first other ∧ following code = following other
        ∧ code / 0x40 ^ following code = other / 0x40 ^ following code := by
  unfold first following
  split_ifs <;> omega

theorem first_lt {code : Nat} (h : code < 0x110000) : first code < 2 ^ 8 := by
  unfold first
  split_ifs <;> omega

theorem toNat_lt (c : Char) : c.toNat < 0x110000 := by
  have hvalid : c.toNat < 0xD800 ∨ 0xDFFF < c.toNat ∧ c.toNat < 0x110000 := c.valid
  omega

theorem utf8EncodeChar_append_lt {c d : Char} (h : c < d) (xs ys : List UInt8)
    : String.utf8EncodeChar c ++ xs < String.utf8EncodeChar d ++ ys := by
  have hlt : c.toNat < d.toNat := h
  have hbyte : ∀ e : Char, (UInt8.ofNat (first e.toNat)).toNat = first e.toNat :=
    fun e => UInt8.toNat_ofNat_of_lt' (first_lt (toNat_lt e))
  rw [utf8EncodeChar_eq, utf8EncodeChar_eq, List.cons_append, List.cons_append, List.cons_lt_cons_iff]
  rcases first_lt_or_same hlt (toNat_lt d) with hfirst | ⟨hfirst, hcount, hsame⟩
  . left
    rw [UInt8.lt_iff_toNat_lt, hbyte, hbyte]
    exact hfirst
  . right
    rw [← hfirst, ← hcount]
    exact ⟨rfl, rest_append_lt hlt hsame xs ys⟩

end Utf8

namespace Bytes

theorem flatMap_utf8EncodeChar_lt {cs ds : List Char} (h : cs < ds)
    : cs.flatMap String.utf8EncodeChar < ds.flatMap String.utf8EncodeChar := by
  induction h with
  | @nil d ds =>
    rw [List.flatMap_nil, List.flatMap_cons, Utf8.utf8EncodeChar_eq, List.cons_append]
    exact List.nil_lt_cons _ _
  | rel h => exact Utf8.utf8EncodeChar_append_lt h _ _
  | cons _ ih => exact List.append_left_lt ih

theorem ofString_lt_iff {s t : String} : ofString s < ofString t ↔ s < t := by
  have hmono : ∀ {s t : String}, s < t → ofString s < ofString t := by
    intro s t h
    rw [ofString_eq_flatMap, ofString_eq_flatMap]
    exact flatMap_utf8EncodeChar_lt (String.lt_iff.mp h)
  refine ⟨?_, hmono⟩
  intro h
  rcases lt_trichotomy s t with hlt | rfl | hgt
  . exact hlt
  . exact absurd h (List.lt_irrefl _)
  . exact absurd h (List.lt_asymm (hmono hgt))

theorem ofString_le_iff {s t : String} : ofString s ≤ ofString t ↔ s ≤ t := by
  rw [← not_lt, ← ofString_lt_iff]
  rfl

end Bytes

end PcieSwitch
