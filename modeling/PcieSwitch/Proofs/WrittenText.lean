import Mathlib.Algebra.Group.Nat.Defs
import Mathlib.Data.List.Basic
import PcieSwitch.Bytes
import PcieSwitch.Text.Layout
import PcieSwitch.Text.Split

/-!
This module contains the theory of written text: its bytes are those of its parts, a number is read back from its
hexadecimal digits, and what was put together with a separator is split into its pieces.
-/

namespace PcieSwitch
namespace Bytes

theorem toList_loop_eq (bs : ByteArray) (i : Nat) (before : List UInt8)
    : ByteArray.toList.loop bs i before = before.reverse ++ bs.data.toList.drop i := by
  fun_induction ByteArray.toList.loop bs i before with
  | case1 i before h ih =>
    have hi : i < bs.data.toList.length := by simpa using h
    rw [ih, List.drop_eq_getElem_cons hi]
    simp [ByteArray.get!, h]
  | case2 i before h =>
    rw [List.drop_eq_nil_of_le (by simpa using h)]
    simp

theorem toList_eq_data (bs : ByteArray) : bs.toList = bs.data.toList :=
  toList_loop_eq bs 0 []

@[simp]
theorem ofString_empty : ofString "" = [] :=
  toList_eq_data _

@[simp]
theorem ofString_append (s t : String) : ofString (s ++ t) = ofString s ++ ofString t := by
  unfold ofString
  rw [toList_eq_data, toList_eq_data, toList_eq_data]
  simp

theorem ofString_eq_flatMap (s : String) : ofString s = s.toList.flatMap String.utf8EncodeChar := by
  unfold ofString
  rw [toList_eq_data, String.toUTF8, ← String.utf8Encode_toList, List.utf8Encode, List.data_toByteArray]

theorem utf8?_eq_some_iff {bs : Bytes} {text : String}
    : bs.utf8? = some text ↔ bs = text.toList.flatMap String.utf8EncodeChar := by
  have hbytes : bs = text.toList.flatMap String.utf8EncodeChar ↔ ByteArray.mk bs.toArray = text.toByteArray := by
    rw [← String.utf8Encode_toList, List.utf8Encode, ByteArray.ext_iff, List.data_toByteArray]
    exact ⟨fun h => congrArg List.toArray h, List.toArray_inj⟩
  rw [hbytes]
  unfold utf8? String.fromUTF8?
  constructor
  . intro h
    split at h
    . cases h
      rfl
    . cases h
  . intro h
    rw [h, dif_pos text.isValidUTF8]
    rfl

@[simp]
theorem utf8?_ofString (s : String) : (ofString s).utf8? = some s :=
  utf8?_eq_some_iff.mpr (ofString_eq_flatMap s)

theorem ofString_injective : Function.Injective ofString := by
  intro s t h
  apply Option.some.inj
  rw [← utf8?_ofString s, h, utf8?_ofString]

end Bytes

namespace Numeral

theorem digit?_digitChar {d : Nat} (h : d < 16) : digit? 16 d.digitChar = some d := by
  revert d
  decide

theorem digits_append {base limit value : Nat} {cs : List Char} {read : Nat}
    (h : digits base limit value cs = .ok read) (others : List Char)
    : digits base limit value (cs ++ others) = digits base limit read others := by
  fun_induction digits base limit value cs with
  | case1 => cases h; rfl
  | case2 => contradiction
  | case3 value c cs d hd hlt ih =>
    rw [List.cons_append, digits, hd]
    simp only [if_pos hlt]
    exact ih h
  | case4 => contradiction

theorem digits_toText {n limit : Nat} (h : n < limit) : digits 16 limit 0 (toText 16 n) = .ok n := by
  unfold toText
  induction n using Nat.strongRecOn with
  | ind n ih =>
    rw [Nat.toDigits_eq_if (by decide)]
    split
    . next hsmall => simp [digits, digit?_digitChar hsmall, h]
    . next hlarge =>
      -- the digits before the last one are those of the number without it
      have hvalue : 16 * (n / 16) + n % 16 = n := Nat.div_add_mod n 16
      have hlast : n % 16 < 16 := Nat.mod_lt n (by decide)
      rw [digits_append (ih (n / 16) (by omega) (by omega))]
      simp [digits, digit?_digitChar hlast, hvalue, h]

theorem digits_zeros {limit : Nat} (h : 0 < limit) (count : Nat)
    : digits 16 limit 0 (List.replicate count '0') = .ok 0 := by
  have hzero : digit? 16 '0' = some 0 := by decide
  induction count with
  | zero => rfl
  | succ count ih => simpa [List.replicate_succ, digits, hzero, h] using ih

theorem isSome_digit?_of_mem_toText {n : Nat} {c : Char} (h : c ∈ toText 16 n)
    : (digit? 16 c).isSome := by
  unfold toText at h
  induction n using Nat.strongRecOn with
  | ind n ih =>
    rw [Nat.toDigits_eq_if (by decide)] at h
    split at h
    . next hsmall =>
      rw [List.mem_singleton.mp h, digit?_digitChar hsmall]
      rfl
    . next hlarge =>
      rcases List.mem_append.mp h with hfirst | hlast
      . exact ih (n / 16) (by omega) hfirst
      . rw [List.mem_singleton.mp hlast, digit?_digitChar (Nat.mod_lt n (by decide))]
        rfl

end Numeral

namespace Text

theorem toList_hex (n width : Nat)
    : (hex n width).toList
        =
      List.replicate (width - (Numeral.toText 16 n).length) '0' ++ Numeral.toText 16 n := by
  simp [hex, right]

theorem isSome_digit?_of_mem_hex {n width : Nat} {c : Char} (h : c ∈ (hex n width).toList)
    : (Numeral.digit? 16 c).isSome := by
  rw [toList_hex] at h
  rcases List.mem_append.mp h with hzero | hdigit
  . rw [List.eq_of_mem_replicate hzero]
    decide
  . exact Numeral.isSome_digit?_of_mem_toText hdigit

theorem not_mem_hex {c : Char} (h : Numeral.digit? 16 c = none) (n width : Nat)
    : c ∉ (hex n width).toList := by
  intro hmem
  have hdigit : (Numeral.digit? 16 c).isSome := isSome_digit?_of_mem_hex hmem
  rw [h] at hdigit
  cases hdigit

theorem hex_ne_nil (n width : Nat) : (hex n width).toList ≠ [] := by
  rw [toList_hex]
  exact List.append_ne_nil_of_right_ne_nil _ Nat.toDigits_ne_nil

theorem parseHex_hex {n bits : Nat} (h : n < 2 ^ bits) (width : Nat)
    : Numeral.parseHex bits (hex n width).toList = .ok n := by
  have hlimit : n < 1 <<< bits := by
    rw [Nat.one_shiftLeft]
    exact h
  have hdigits : Numeral.digits 16 (1 <<< bits) 0 (hex n width).toList = .ok n := by
    rw [toList_hex, Numeral.digits_append (Numeral.digits_zeros (Nat.zero_lt_of_lt hlimit) _)]
    exact Numeral.digits_toText hlimit
  have hplus : '+' ∉ (hex n width).toList := not_mem_hex (by decide) n width
  unfold Numeral.parseHex Numeral.parse
  split
  . next hnil => exact absurd hnil (hex_ne_nil n width)
  . next hsign =>
    rw [hsign] at hplus
    simp at hplus
  . next hsign =>
    rw [hsign] at hplus
    simp at hplus
  . exact hdigits

variable [DecidableEq α]

theorem splitAtEach_ne_nil (x : α) (xs : List α) : splitAtEach x xs ≠ [] := by
  fun_induction splitAtEach x xs with
  | case1 => simp
  | case2 => simp
  | case3 => simp
  | case4 => simp

@[simp]
theorem splitAtEach_cons_self (x : α) (xs : List α)
    : splitAtEach x (x :: xs) = [] :: splitAtEach x xs := by
  rw [splitAtEach]
  split
  . next hnil => exact absurd hnil (splitAtEach_ne_nil x xs)
  . next hpieces => rw [if_pos rfl, hpieces]

theorem splitAtEach_of_not_mem {x : α} {xs : List α} (h : x ∉ xs) : splitAtEach x xs = [xs] := by
  induction xs with
  | nil => rfl
  | cons y xs ih =>
    have hhead : y ≠ x := fun heq => h (heq ▸ List.mem_cons_self)
    have hrest : x ∉ xs := fun hmem => h (List.mem_cons_of_mem y hmem)
    rw [splitAtEach, ih hrest]
    simp only [if_neg hhead]

theorem splitAtEach_append {x : α} {piece : List α} (h : x ∉ piece) (xs : List α)
    : splitAtEach x (piece ++ x :: xs) = piece :: splitAtEach x xs := by
  induction piece with
  | nil => apply splitAtEach_cons_self
  | cons y piece ih =>
    have hhead : y ≠ x := fun heq => h (heq ▸ List.mem_cons_self)
    have hrest : x ∉ piece := fun hmem => h (List.mem_cons_of_mem y hmem)
    rw [List.cons_append, splitAtEach, ih hrest]
    simp only [if_neg hhead]

theorem splitAtEach_intercalate {x : α} {pieces : List (List α)} (hpieces : pieces ≠ [])
    (h : ∀ piece ∈ pieces, x ∉ piece) : splitAtEach x (List.intercalate [x] pieces) = pieces := by
  induction pieces with
  | nil => exact absurd rfl hpieces
  | cons piece rest ih =>
    obtain ⟨hpiece, hrest⟩ := List.forall_mem_cons.mp h
    cases rest with
    | nil => rw [List.intercalate_singleton, splitAtEach_of_not_mem hpiece]
    | cons next rest =>
      rw [List.intercalate_cons_cons, List.append_assoc, List.singleton_append, splitAtEach_append hpiece]
      rw [ih (List.cons_ne_nil next rest) hrest]

end Text
end PcieSwitch
