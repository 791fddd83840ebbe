import PcieSwitch.CommandLine.Values
import PcieSwitch.Proofs.Numerals
import PcieSwitch.Proofs.TextPieces

/-!
This module contains the grammar of sizes. A size is a number of either notation with a letter for a binary power after
it if need be, and whatever stands between blanks is read as the product of the two, if and only if this fits 64 bits.
-/

namespace PcieSwitch
namespace Value

open Numeral

def sizeLetters : List (Char × Nat) :=
  [('k', 10), ('K', 10), ('m', 20), ('M', 20), ('g', 30), ('G', 30)]

inductive IsSize : List Char → Nat → Nat → Prop where
  | plain (h : IsNumber cs n) : IsSize cs n 0
  | scaled (h : IsNumber cs n) (hletter : (c, power) ∈ sizeLetters) : IsSize (cs ++ [c]) n power

theorem sizePower?_eq_some_iff {c : Char} {power : Nat} : sizePower? c = some power ↔ (c, power) ∈ sizeLetters := by
  constructor
  . intro h
    unfold sizePower? at h
    unfold sizeLetters
    grind
  . have hpowers : ∀ letter ∈ sizeLetters, sizePower? letter.1 = some letter.2 := by
      decide
    exact hpowers (c, power)

theorem not_mem_of_mem_sizeLetters {cs : List Char} {n : Nat} (h : IsNumber cs n) {letter : Char × Nat}
    (hletter : letter ∈ sizeLetters) : letter.1 ∉ cs := by
  have hnone : ∀ letter ∈ sizeLetters, letter.1 ∉ ['+', 'x', 'X'] ∧ digit? 16 letter.1 = none := by
    decide
  obtain ⟨hsign, hdigit⟩ := hnone letter hletter
  exact h.not_mem hsign hdigit

theorem parseMarked_eq_ok_iff {bits : Nat} {cs : List Char} {n : Nat}
    : parseMarked bits cs = .ok n ↔ IsNumber cs n ∧ n < 2 ^ bits := by
  unfold parseMarked
  split
  . next digits hmark => rw [parseHex_eq_ok_iff, isNumber_iff_of_mark hmark]
  . next hmark => rw [parseDec_eq_ok_iff, isNumber_iff_of_no_mark hmark]

theorem isSize_iff {cs : List Char} {n power : Nat}
    : IsSize cs n power ↔ IsNumber (splitSize cs).1 n ∧ (splitSize cs).2 = power := by
  unfold splitSize
  constructor
  . intro h
    cases h with
    | plain h =>
      have hnone : cs.getLast?.bind sizePower? = none := by
        rw [Option.bind_eq_none_iff]
        intro c hc
        cases hletter : sizePower? c with
        | none => rfl
        | some power =>
          have hmem := sizePower?_eq_some_iff.mp hletter
          exact absurd (List.mem_of_getLast? hc) (not_mem_of_mem_sizeLetters h hmem)
      rw [hnone]
      exact ⟨h, rfl⟩
    | @scaled digits _ c _ h hletter =>
      rw [List.getLast?_concat, Option.bind_some, sizePower?_eq_some_iff.mpr hletter]
      dsimp only
      rw [List.dropLast_concat]
      exact ⟨h, rfl⟩
  . split
    . next other hletter =>
      obtain ⟨c, hlast, hpower⟩ := Option.bind_eq_some_iff.mp hletter
      obtain ⟨digits, rfl⟩ := List.getLast?_eq_some_iff.mp hlast
      rw [List.dropLast_concat]
      rintro ⟨hnumber, rfl⟩
      exact .scaled hnumber (sizePower?_eq_some_iff.mp hpower)
    . rintro ⟨hnumber, rfl⟩
      exact .plain hnumber

section

variable {s : String} {core : List Char}

theorem lt_of_scaled_lt {n power : Nat} (h : n * 2 ^ power < 2 ^ 64) : n < 2 ^ 64 :=
  Nat.lt_of_le_of_lt (Nat.le_mul_of_pos_right n (Nat.two_pow_pos power)) h

theorem parseSize_of_isSize (hcore : Text.trim s.toList = core) {n power : Nat} (h : IsSize core n power)
    (hfits : n * 2 ^ power < 2 ^ 64) : parseSize s = .ok (n * 2 ^ power) := by
  obtain ⟨hnumber, rfl⟩ := isSize_iff.mp h
  unfold parseSize
  dsimp only
  rw [hcore, parseMarked_eq_ok_iff.mpr ⟨hnumber, lt_of_scaled_lt hfits⟩]
  dsimp only
  rw [Nat.shiftLeft_eq]
  exact if_pos hfits

theorem parseSize_cases (hcore : Text.trim s.toList = core)
    : (∃ n power, IsSize core n power ∧ n * 2 ^ power < 2 ^ 64 ∧ parseSize s = .ok (n * 2 ^ power))
        ∨
      (∀ n power, IsSize core n power → 2 ^ 64 ≤ n * 2 ^ power)
        ∧ parseSize s = .error (.notASize (String.ofList core)) := by
  by_cases hsize : ∃ n power, IsSize core n power ∧ n * 2 ^ power < 2 ^ 64
  . obtain ⟨n, power, hsize, hfits⟩ := hsize
    exact .inl ⟨n, power, hsize, hfits, parseSize_of_isSize hcore hsize hfits⟩
  . have hlarge : ∀ n power, IsSize core n power → 2 ^ 64 ≤ n * 2 ^ power := by
      intro n power h
      exact Nat.le_of_not_lt fun hfits => hsize ⟨n, power, h, hfits⟩
    refine .inr ⟨hlarge, ?_⟩
    unfold parseSize
    dsimp only
    rw [hcore]
    cases hmarked : parseMarked 64 (splitSize core).1 with
    | error e => rfl
    | ok n =>
      have hnumber := isSize_iff.mpr ⟨(parseMarked_eq_ok_iff.mp hmarked).1, rfl⟩
      dsimp only
      rw [Nat.shiftLeft_eq]
      exact if_neg (Nat.not_lt.mpr (hlarge n _ hnumber))

theorem parseSize_eq_ok_iff {v : Nat}
    : parseSize s = .ok v
        ↔
      ∃ core n power, Text.Trims s.toList core ∧ IsSize core n power ∧ n < 2 ^ 64 ∧ n * 2 ^ power < 2 ^ 64
        ∧ v = n * 2 ^ power := by
  constructor
  . intro h
    rcases parseSize_cases (rfl : Text.trim s.toList = _) with ⟨n, power, hsize, hfits, hparse⟩ | ⟨_, hparse⟩
    . rw [hparse] at h
      cases h
      exact ⟨_, n, power, Text.trims_trim s.toList, hsize, lt_of_scaled_lt hfits, hfits, rfl⟩
    . rw [hparse] at h
      cases h
  . rintro ⟨core, n, power, hcore, hsize, _, hfits, rfl⟩
    exact parseSize_of_isSize hcore.trim_eq hsize hfits

theorem parseSize_eq_error_iff {e : ValueError}
    : parseSize s = .error e
        ↔
      ∃ core, Text.Trims s.toList core ∧ e = .notASize (String.ofList core)
        ∧ ∀ n power, IsSize core n power → 2 ^ 64 ≤ n * 2 ^ power := by
  constructor
  . intro h
    rcases parseSize_cases (rfl : Text.trim s.toList = _) with ⟨n, power, _, _, hparse⟩ | ⟨hlarge, hparse⟩
    . rw [hparse] at h
      cases h
    . rw [hparse] at h
      exact ⟨_, Text.trims_trim s.toList, (Except.error.inj h).symm, hlarge⟩
  . rintro ⟨core, hcore, rfl, hlarge⟩
    rcases parseSize_cases hcore.trim_eq with ⟨n, power, hsize, hfits, _⟩ | ⟨_, hparse⟩
    . exact absurd hfits (Nat.not_lt.mpr (hlarge n power hsize))
    . exact hparse

end

theorem digit?_of_isBlank {c : Char} (h : Text.isBlank c) : digit? 16 c = none := by
  have hascii : ∀ n < 128, Text.isBlank (Char.ofNat n) → digit? 16 (Char.ofNat n) = none := by
    decide +kernel
  cases hdigit : digit? 16 c with
  | none => rfl
  | some d =>
    have hnone := hascii c.toNat (toNat_lt_of_digit?_eq_some hdigit)
    rw [Char.ofNat_toNat, hdigit] at hnone
    exact hnone h

theorem not_isBlank_of_isNumber {cs : List Char} {n : Nat} (h : IsNumber cs n) : ∀ c ∈ cs, ¬ Text.isBlank c := by
  have hnone : ∀ c ∈ ['+', 'x', 'X'], ¬ Text.isBlank c := by
    simp only [List.forall_mem_cons]
    exact ⟨by decide, by decide, by decide, List.forall_mem_nil _⟩
  intro c hc hblank
  exact h.not_mem (fun hsign => hnone c hsign hblank) (digit?_of_isBlank hblank) hc

theorem parseSize_of_isNumber {s : String} {n : Nat} (h : IsNumber s.toList n) (hn : n < 2 ^ 64)
    : parseSize s = .ok n := by
  have htrim := (Text.trims_self (not_isBlank_of_isNumber h)).trim_eq
  have hparse := parseSize_of_isSize htrim (.plain h)
  rw [Nat.pow_zero, Nat.mul_one] at hparse
  exact hparse hn

/--
A size is read as the product of its number and its power, and refused if there is none or if it is too large. The
digits of a word of 64 bits are read back, in either notation.
-/
theorem sizes_fit_or_are_refused (s : String)
    : (∀ v, parseSize s = .ok v ↔ ∃ core n power, Text.Trims s.toList core ∧ IsSize core n power ∧ n < 2 ^ 64
        ∧ n * 2 ^ power < 2 ^ 64 ∧ v = n * 2 ^ power)
        ∧
      (∀ e, parseSize s = .error e ↔ ∃ core, Text.Trims s.toList core ∧ e = .notASize (String.ofList core)
        ∧ ∀ n power, IsSize core n power → 2 ^ 64 ≤ n * 2 ^ power)
        ∧
      (∀ v : UInt64, parseSize (toString v.toNat) = .ok v.toNat
        ∧ parseSize ("0x" ++ Text.hex v.toNat) = .ok v.toNat) := by
  refine ⟨fun _ => parseSize_eq_ok_iff, fun _ => parseSize_eq_error_iff, ?_⟩
  intro v
  constructor
  . exact parseSize_of_isNumber (isNumber_repr v.toNat) v.toNat_lt
  . exact parseSize_of_isNumber (isNumber_hex v.toNat 1) v.toNat_lt

example : parseSize " 0X+10K\n" = .ok 0x4000 := by
  decide +kernel

end Value
end PcieSwitch
