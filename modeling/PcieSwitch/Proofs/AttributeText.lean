import PcieSwitch.Discovery.FileSystem
import PcieSwitch.Proofs.Numerals
import PcieSwitch.Proofs.TextPieces

/-!
This module contains what the files of attributes say. A file says its text without the blanks around it, and a number
if that text is a numeral of it. Reading an attribute succeeds with what its file says, and with nothing else.
-/

namespace PcieSwitch
namespace Files

open Numeral

def Marked (cs digits : List Char) : Prop :=
  ∃ count, cs = (List.replicate count "0x".toList).flatten ++ digits

def Says (fs : Files Id) (path : String) (cs : List Char) : Prop :=
  ∃ text, (fs.contents path).run = .ok (Bytes.ofString text) ∧ Text.Trims text.toList cs

def SaysDecimal (fs : Files Id) (path : String) (n : Nat) : Prop :=
  ∃ cs, fs.Says path cs ∧ IsNumeral 10 cs n

def SaysHexadecimal (fs : Files Id) (path : String) (n : Nat) : Prop :=
  ∃ cs digits, fs.Says path cs ∧ Marked cs digits ∧ IsNumeral 16 digits n

theorem withoutMarks_of_not_mem {cs : List Char} (h : 'x' ∉ cs) : withoutMarks cs = cs := by
  unfold withoutMarks
  split
  . simp at h
  . rfl

theorem withoutMarks_of_marked {cs digits : List Char} (h : Marked cs digits) (hdigits : 'x' ∉ digits)
    : withoutMarks cs = digits := by
  obtain ⟨count, rfl⟩ := h
  induction count with
  | zero => exact withoutMarks_of_not_mem hdigits
  | succ count ih => exact ih

theorem marked_withoutMarks (cs : List Char) : Marked cs (withoutMarks cs) := by
  fun_induction withoutMarks cs with
  | case1 cs ih =>
    obtain ⟨count, hcount⟩ := ih
    refine ⟨count + 1, ?_⟩
    rw [List.replicate_succ, List.flatten_cons, List.append_assoc, ← hcount]
    rfl
  | case2 cs _ => exact ⟨0, rfl⟩

theorem isNumeral_withoutMarks_iff {cs : List Char} {n : Nat}
    : IsNumeral 16 (withoutMarks cs) n ↔ ∃ digits, Marked cs digits ∧ IsNumeral 16 digits n := by
  constructor
  . intro h
    exact ⟨withoutMarks cs, marked_withoutMarks cs, h⟩
  . rintro ⟨digits, hmarked, h⟩
    have hx : 'x' ∉ digits := h.not_mem (by decide) (by decide) (by decide)
    rw [withoutMarks_of_marked hmarked hx]
    exact h

section

variable {fs : Files Id} {path : String}

theorem trimmed_eq_ok_iff {cs : List Char} : (fs.trimmed path).run = .ok cs ↔ fs.Says path cs := by
  unfold trimmed text Says
  simp only [Id.run_bind, Id.run_pure]
  cases (fs.contents path).run with
  | error e =>
    refine ⟨nofun, ?_⟩
    rintro ⟨_, ⟨⟩, _⟩
  | ok data =>
    dsimp only
    split
    . next text htext =>
      rw [Bytes.utf8?_eq_some_iff, ← Bytes.ofString_eq_flatMap] at htext
      subst htext
      constructor
      . rintro ⟨⟩
        exact ⟨text, rfl, Text.trims_trim text.toList⟩
      . rintro ⟨other, hdata, htrims⟩
        cases Bytes.ofString_injective (Except.ok.inj hdata)
        exact congrArg Except.ok htrims.trim_eq
    . next hnone =>
      refine ⟨nofun, ?_⟩
      rintro ⟨text, hdata, _⟩
      cases hdata
      rw [Bytes.utf8?_ofString] at hnone
      cases hnone

theorem Says.unique {cs others : List Char} (h : fs.Says path cs) (hothers : fs.Says path others) : cs = others := by
  rw [← trimmed_eq_ok_iff] at h hothers
  exact Except.ok.inj (h.symm.trans hothers)

theorem SaysDecimal.unique {n m : Nat} (h : fs.SaysDecimal path n) (hm : fs.SaysDecimal path m) : n = m := by
  obtain ⟨cs, hcs, hn⟩ := h
  obtain ⟨others, hothers, hm⟩ := hm
  cases hcs.unique hothers
  exact hn.unique (by decide) (by decide) hm

theorem SaysHexadecimal.unique {n m : Nat} (h : fs.SaysHexadecimal path n) (hm : fs.SaysHexadecimal path m)
    : n = m := by
  obtain ⟨cs, digits, hcs, hdigits, hn⟩ := h
  obtain ⟨others, digits', hothers, hdigits', hm⟩ := hm
  cases hcs.unique hothers
  have hn' : IsNumeral 16 (withoutMarks cs) n := isNumeral_withoutMarks_iff.mpr ⟨digits, hdigits, hn⟩
  have hm' : IsNumeral 16 (withoutMarks cs) m := isNumeral_withoutMarks_iff.mpr ⟨digits', hdigits', hm⟩
  exact hn'.unique (by decide) (by decide) hm'

theorem number_eq_ok_iff {parse : List Char → Except NumeralError Nat} {n : Nat}
    : (fs.number parse path).run = .ok n ↔ ∃ cs, fs.Says path cs ∧ parse cs = .ok n := by
  unfold number
  simp only [Id.run_bind, ← trimmed_eq_ok_iff]
  cases (fs.trimmed path).run with
  | error e =>
    refine ⟨nofun, ?_⟩
    rintro ⟨_, ⟨⟩, _⟩
  | ok cs =>
    simp only [Id.run_pure, Except.ok.injEq, exists_eq_left']
    cases parse cs with
    | error e => exact ⟨nofun, nofun⟩
    | ok m => simp [Except.mapError]

theorem decimal_eq_ok_iff {n : Nat} : (fs.decimal path).run = .ok n ↔ fs.SaysDecimal path n ∧ n < 2 ^ 32 := by
  unfold decimal SaysDecimal
  rw [number_eq_ok_iff, ← exists_and_right]
  simp only [parseDec_eq_ok_iff, and_assoc]

theorem hexadecimal_eq_ok_iff {n : Nat}
    : (fs.hexadecimal path).run = .ok n ↔ fs.SaysHexadecimal path n ∧ n < 2 ^ 32 := by
  unfold hexadecimal SaysHexadecimal
  simp only [number_eq_ok_iff, parseHex_eq_ok_iff, isNumeral_withoutMarks_iff]
  constructor
  . rintro ⟨cs, hsaid, ⟨digits, hmarked, hnumeral⟩, hn⟩
    exact ⟨⟨cs, digits, hsaid, hmarked, hnumeral⟩, hn⟩
  . rintro ⟨⟨cs, digits, hsaid, hmarked, hnumeral⟩, hn⟩
    exact ⟨cs, hsaid, ⟨digits, hmarked, hnumeral⟩, hn⟩

end

end Files
end PcieSwitch
