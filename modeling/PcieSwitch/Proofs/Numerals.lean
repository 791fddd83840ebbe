import Mathlib.Data.List.Forall2
import Mathlib.Data.Nat.Digits.Defs
import PcieSwitch.Proofs.WrittenText

/-!
This module contains the theory of numerals. A text is read as a number if and only if it is a numeral of this number, a
sign if need be and one or more digits, and the number stays below the limit. What is written in a base is such a
numeral.
-/

namespace PcieSwitch

theorem toOption_eq_some_iff {answer : Except ε α} {value : α} : answer.toOption = some value ↔ answer = .ok value := by
  cases answer with
  | error e => exact ⟨nofun, nofun⟩
  | ok other => simp [Except.toOption]

namespace Numeral

def IsDigit (base : Nat) (c : Char) (d : Nat) : Prop :=
  d < base ∧ c.toLower = d.digitChar

def Spells (base : Nat) (cs : List Char) (n : Nat) : Prop :=
  ∃ ds, List.Forall₂ (IsDigit base) cs ds ∧ Nat.ofDigits base ds.reverse = n

inductive IsNumeral (base : Nat) : List Char → Nat → Prop where
  | unsigned (hne : cs ≠ []) (h : Spells base cs n) : IsNumeral base cs n
  | signed (hne : cs ≠ []) (h : Spells base cs n) : IsNumeral base ('+' :: cs) n

theorem digit?_eq_some_iff_of_ascii
    : ∀ n < 128, ∀ d < 16, digit? 16 (Char.ofNat n) = some d ↔ (Char.ofNat n).toLower = d.digitChar := by
  decide +kernel

theorem toNat_lt_of_digit?_eq_some {base d : Nat} {c : Char} (h : digit? base c = some d) : c.toNat < 128 := by
  obtain ⟨hvalue, _⟩ := Option.filter_eq_some_iff.mp h
  have hle : ∀ {last : Char}, c ≤ last → c.toNat ≤ last.toNat := fun h => h
  split at hvalue
  . next hc => exact Nat.lt_of_le_of_lt (hle hc.2) (by decide)
  . split at hvalue
    . next hc => exact Nat.lt_of_le_of_lt (hle hc.2) (by decide)
    . split at hvalue
      . next hc => exact Nat.lt_of_le_of_lt (hle hc.2) (by decide)
      . cases hvalue

theorem toNat_lt_of_toLower_eq {d : Nat} (hd : d < 16) {c : Char} (h : c.toLower = d.digitChar) : c.toNat < 128 := by
  have hdigit : ∀ d < 16, d.digitChar.toNat < 128 := by
    decide
  have hlower : c.toLower.toNat < 128 := by
    rw [h]
    exact hdigit d hd
  unfold Char.toLower at hlower
  split at hlower
  . next hupper =>
    have hle : c.toNat ≤ 'Z'.toNat := hupper.2
    exact Nat.lt_of_le_of_lt hle (by decide)
  . exact hlower

theorem digit?_eq_some_iff {base d : Nat} (hbase : base ≤ 16) {c : Char}
    : digit? base c = some d ↔ IsDigit base c d := by
  have hsame (hd : d < 16) (hc : c.toNat < 128) : digit? 16 c = some d ↔ c.toLower = d.digitChar := by
    rw [← Char.ofNat_toNat c]
    exact digit?_eq_some_iff_of_ascii c.toNat hc d hd
  have hnarrow : digit? base c = some d ↔ d < base ∧ digit? 16 c = some d := by
    unfold digit?
    simp only [Option.filter_eq_some_iff, decide_eq_true_eq]
    constructor
    . rintro ⟨hvalue, hd⟩
      exact ⟨hd, hvalue, Nat.lt_of_lt_of_le hd hbase⟩
    . rintro ⟨hd, hvalue, _⟩
      exact ⟨hvalue, hd⟩
  rw [hnarrow]
  apply and_congr_right
  intro hd
  have hd : d < 16 := Nat.lt_of_lt_of_le hd hbase
  constructor
  . intro hvalue
    exact (hsame hd (toNat_lt_of_digit?_eq_some hvalue)).mp hvalue
  . intro hlower
    exact (hsame hd (toNat_lt_of_toLower_eq hd hlower)).mpr hlower

theorem IsDigit.unique {base d d' : Nat} (hbase : base ≤ 16) {c : Char} (h : IsDigit base c d) (h' : IsDigit base c d')
    : d' = d := by
  rw [← digit?_eq_some_iff hbase] at h h'
  rw [h, Option.some_inj] at h'
  exact h'.symm

section

variable {base : Nat}

def valueAfter (base value : Nat) (ds : List Nat) : Nat :=
  ds.foldl (fun value d => base * value + d) value

theorem le_valueAfter (hbase : 0 < base) (value : Nat) (ds : List Nat) : value ≤ valueAfter base value ds := by
  induction ds generalizing value with
  | nil => exact Nat.le_refl value
  | cons d ds ih =>
    calc
      value ≤ base * value := Nat.le_mul_of_pos_left value hbase
      _ ≤ base * value + d := Nat.le_add_right _ d
      _ ≤ valueAfter base (base * value + d) ds := ih _

theorem valueAfter_zero (ds : List Nat) : valueAfter base 0 ds = Nat.ofDigits base ds.reverse := by
  rw [Nat.ofDigits_eq_foldr, List.foldr_reverse]
  unfold valueAfter
  congr
  funext value d
  exact Nat.add_comm (base * value) d

/--
Reading compares each value on its way with the limit. No value is larger than the last one, so only that one matters.
-/
theorem digits_eq_ok_iff (hpos : 0 < base) (hbase : base ≤ 16) {limit value : Nat} (hvalue : value < limit)
    {cs : List Char} {n : Nat}
    : digits base limit value cs = .ok n
        ↔
      (∃ ds, List.Forall₂ (IsDigit base) cs ds ∧ valueAfter base value ds = n) ∧ n < limit := by
  induction cs generalizing value with
  | nil =>
    simp only [digits, List.forall₂_nil_left_iff, Except.ok.injEq, exists_eq_left]
    constructor
    . rintro rfl
      exact ⟨rfl, hvalue⟩
    . rintro ⟨rfl, _⟩
      rfl
  | cons c cs ih =>
    unfold digits
    cases hdigit : digit? base c with
    | none =>
      constructor
      . rintro ⟨⟩
      . rintro ⟨⟨_, hds, _⟩, _⟩
        cases hds with
        | cons hd _ =>
          rw [(digit?_eq_some_iff hbase).mpr hd] at hdigit
          cases hdigit
    | some d =>
      have hd : IsDigit base c d := (digit?_eq_some_iff hbase).mp hdigit
      dsimp only
      split
      . next hnext =>
        rw [ih hnext]
        apply and_congr_left
        intro _
        constructor
        . rintro ⟨ds, hds, hn⟩
          exact ⟨d :: ds, .cons hd hds, hn⟩
        . rintro ⟨_, hds, hn⟩
          cases hds with
          | cons hd' hds =>
            cases hd.unique hbase hd'
            exact ⟨_, hds, hn⟩
      . next hlarge =>
        constructor
        . rintro ⟨⟩
        . rintro ⟨⟨_, hds, rfl⟩, hlimit⟩
          cases hds with
          | cons hd' hds =>
            cases hd.unique hbase hd'
            exact absurd (Nat.lt_of_le_of_lt (le_valueAfter hpos (base * value + d) _) hlimit) hlarge

theorem digits_zero_eq_ok_iff (hpos : 0 < base) (hbase : base ≤ 16) {limit : Nat} (hlimit : 0 < limit) {cs : List Char}
    {n : Nat} : digits base limit 0 cs = .ok n ↔ Spells base cs n ∧ n < limit := by
  rw [digits_eq_ok_iff hpos hbase hlimit]
  simp only [valueAfter_zero]
  rfl

theorem not_spells_plus (hbase : base ≤ 16) {cs : List Char} {n : Nat} : ¬ Spells base ('+' :: cs) n := by
  rintro ⟨_, hds, _⟩
  cases hds with
  | cons hd _ =>
    have hnone : digit? 16 '+' = none := by
      decide
    rw [(digit?_eq_some_iff (Nat.le_refl 16)).mpr ⟨Nat.lt_of_lt_of_le hd.1 hbase, hd.2⟩] at hnone
    cases hnone

theorem parse_eq_ok_iff (hpos : 0 < base) (hbase : base ≤ 16) {limit : Nat} (hlimit : 0 < limit) {cs : List Char}
    {n : Nat} : parse base limit cs = .ok n ↔ IsNumeral base cs n ∧ n < limit := by
  have hdigits {cs : List Char} : digits base limit 0 cs = .ok n ↔ Spells base cs n ∧ n < limit :=
    digits_zero_eq_ok_iff hpos hbase hlimit
  unfold parse
  split
  . refine ⟨nofun, ?_⟩
    rintro ⟨h, _⟩
    cases h with
    | unsigned hne _ => exact absurd rfl hne
  . refine ⟨nofun, ?_⟩
    rintro ⟨h, _⟩
    cases h with
    | unsigned _ h => exact absurd h (not_spells_plus hbase)
    | signed hne _ => exact absurd rfl hne
  . next cs hne =>
    rw [hdigits]
    apply and_congr_left
    intro _
    constructor
    . exact .signed fun hnil => hne (by rw [hnil])
    . intro h
      cases h with
      | unsigned _ h => exact absurd h (not_spells_plus hbase)
      | signed _ h => exact h
  . next hnil _ hsign =>
    rw [hdigits]
    apply and_congr_left
    intro _
    constructor
    . exact .unsigned hnil
    . intro h
      cases h with
      | unsigned _ h => exact h
      | signed _ _ => exact absurd rfl (hsign _)

end

theorem parseHex_eq_ok_iff {bits : Nat} {cs : List Char} {n : Nat}
    : parseHex bits cs = .ok n ↔ IsNumeral 16 cs n ∧ n < 2 ^ bits := by
  unfold parseHex
  rw [Nat.one_shiftLeft]
  exact parse_eq_ok_iff (by decide) (by decide) (Nat.two_pow_pos bits)

theorem parseDec_eq_ok_iff {bits : Nat} {cs : List Char} {n : Nat}
    : parseDec bits cs = .ok n ↔ IsNumeral 10 cs n ∧ n < 2 ^ bits := by
  unfold parseDec
  rw [Nat.one_shiftLeft]
  exact parse_eq_ok_iff (by decide) (by decide) (Nat.two_pow_pos bits)

theorem IsNumeral.unique {base : Nat} (hpos : 0 < base) (hbase : base ≤ 16) {cs : List Char} {n m : Nat}
    (h : IsNumeral base cs n) (h' : IsNumeral base cs m) : n = m := by
  have hparse {k : Nat} (h : IsNumeral base cs k) (hk : k ≤ max n m) : parse base (max n m + 1) cs = .ok k :=
    (parse_eq_ok_iff hpos hbase (Nat.succ_pos _)).mpr ⟨h, Nat.lt_succ_of_le hk⟩
  have hsame := (hparse h (Nat.le_max_left n m)).symm.trans (hparse h' (Nat.le_max_right n m))
  exact Except.ok.inj hsame

theorem Spells.concat {base : Nat} {cs : List Char} {n : Nat} (h : Spells base cs n) {c : Char} {d : Nat}
    (hd : IsDigit base c d) : Spells base (cs ++ [c]) (base * n + d) := by
  obtain ⟨ds, hds, rfl⟩ := h
  refine ⟨ds ++ [d], List.rel_append hds (.cons hd .nil), ?_⟩
  rw [List.reverse_concat, Nat.ofDigits_cons, Nat.add_comm]

theorem isDigit_digitChar {base d : Nat} (hd : d < base) (hbase : base ≤ 16) : IsDigit base d.digitChar d := by
  have hlower : ∀ d < 16, d.digitChar.toLower = d.digitChar := by
    decide
  exact ⟨hd, hlower d (Nat.lt_of_lt_of_le hd hbase)⟩

theorem spells_toText {base : Nat} (hone : 1 < base) (hbase : base ≤ 16) (n : Nat) : Spells base (toText base n) n := by
  unfold toText
  induction n using Nat.strongRecOn with
  | ind n ih =>
    rw [Nat.toDigits_eq_if hone]
    split
    . next hsmall => exact ⟨[n], .cons (isDigit_digitChar hsmall hbase) .nil, Nat.ofDigits_singleton⟩
    . next hlarge =>
      -- the digits before the last one are those of the number without it
      have hfirst : n / base < n := Nat.div_lt_self (by omega) hone
      have hlast : n % base < base := Nat.mod_lt n (by omega)
      have hspells := (ih (n / base) hfirst).concat (isDigit_digitChar hlast hbase)
      rw [Nat.div_add_mod] at hspells
      exact hspells

theorem isNumeral_repr (n : Nat) : IsNumeral 10 n.repr.toList n := by
  rw [Nat.toList_repr]
  exact .unsigned Nat.toDigits_ne_nil (spells_toText (by decide) (by decide) n)

theorem isNumeral_hex (n width : Nat) : IsNumeral 16 (Text.hex n width).toList n :=
  (parseHex_eq_ok_iff.mp (Text.parseHex_hex Nat.lt_two_pow_self width)).1

theorem exists_isDigit_of_mem {base : Nat} {cs : List Char} {n : Nat} (h : Spells base cs n) {c : Char} (hc : c ∈ cs)
    : ∃ d, IsDigit base c d := by
  obtain ⟨ds, hds, hn⟩ := h
  clear hn
  induction hds with
  | nil => cases hc
  | cons hd _ ih =>
    rcases List.mem_cons.mp hc with rfl | hrest
    . exact ⟨_, hd⟩
    . exact ih hrest

theorem IsNumeral.not_mem {base : Nat} {cs : List Char} {n : Nat} (h : IsNumeral base cs n) (hbase : base ≤ 16)
    {c : Char} (hplus : c ≠ '+') (hdigit : digit? 16 c = none) : c ∉ cs := by
  have hdigits {ds : List Char} (h : Spells base ds n) : c ∉ ds := by
    intro hmem
    obtain ⟨d, hd⟩ := exists_isDigit_of_mem h hmem
    rw [(digit?_eq_some_iff (Nat.le_refl 16)).mpr ⟨Nat.lt_of_lt_of_le hd.1 hbase, hd.2⟩] at hdigit
    cases hdigit
  cases h with
  | unsigned _ h => exact hdigits h
  | signed _ h => exact List.not_mem_cons_of_ne_of_not_mem hplus (hdigits h)

def Marks (cs digits : List Char) : Prop :=
  cs = "0x".toList ++ digits ∨ cs = "0X".toList ++ digits

inductive IsNumber (cs : List Char) (n : Nat) : Prop where
  | decimal (h : IsNumeral 10 cs n) : IsNumber cs n
  | hexadecimal {digits : List Char} (hmark : Marks cs digits) (h : IsNumeral 16 digits n) : IsNumber cs n

theorem afterHexMark?_eq_some_iff {cs digits : List Char} : afterHexMark? cs = some digits ↔ Marks cs digits := by
  unfold afterHexMark? Marks
  split
  . simp
  . simp
  . next hlower hupper =>
    refine ⟨nofun, ?_⟩
    rintro (rfl | rfl)
    . exact absurd rfl (hlower digits)
    . exact absurd rfl (hupper digits)

theorem isNumber_iff_of_mark {cs digits : List Char} (h : afterHexMark? cs = some digits) {n : Nat}
    : IsNumber cs n ↔ IsNumeral 16 digits n := by
  constructor
  . intro hnumber
    cases hnumber with
    | hexadecimal hmark hdigits =>
      rw [afterHexMark?_eq_some_iff.mpr hmark] at h
      cases h
      exact hdigits
    | decimal hdigits =>
      -- the letter of the mark is no decimal digit
      have hlower : 'x' ∉ cs := hdigits.not_mem (by decide) (by decide) (by decide)
      have hupper : 'X' ∉ cs := hdigits.not_mem (by decide) (by decide) (by decide)
      rcases afterHexMark?_eq_some_iff.mp h with rfl | rfl
      . exact absurd (by simp) hlower
      . exact absurd (by simp) hupper
  . exact .hexadecimal (afterHexMark?_eq_some_iff.mp h)

theorem isNumber_iff_of_no_mark {cs : List Char} (h : afterHexMark? cs = none) {n : Nat}
    : IsNumber cs n ↔ IsNumeral 10 cs n := by
  constructor
  . intro hnumber
    cases hnumber with
    | decimal hdigits => exact hdigits
    | hexadecimal hmark _ =>
      rw [afterHexMark?_eq_some_iff.mpr hmark] at h
      cases h
  . exact .decimal

theorem IsNumber.not_mem {cs : List Char} {n : Nat} (h : IsNumber cs n) {c : Char} (hsign : c ∉ ['+', 'x', 'X'])
    (hdigit : digit? 16 c = none) : c ∉ cs := by
  have hzero : c ≠ '0' := by
    rintro rfl
    cases hdigit
  simp only [List.mem_cons, List.not_mem_nil, or_false, not_or] at hsign
  obtain ⟨hplus, hlower, hupper⟩ := hsign
  cases h with
  | decimal h => exact h.not_mem (by decide) hplus hdigit
  | hexadecimal hmark h =>
    have hdigits := h.not_mem (by decide) hplus hdigit
    rcases hmark with rfl | rfl
    . simp [hzero, hlower, hdigits]
    . simp [hzero, hupper, hdigits]

theorem isNumber_repr (n : Nat) : IsNumber n.repr.toList n :=
  .decimal (isNumeral_repr n)

theorem isNumber_hex (n width : Nat) : IsNumber ("0x" ++ Text.hex n width).toList n := by
  rw [String.toList_append]
  exact .hexadecimal (.inl rfl) (isNumeral_hex n width)

end Numeral
end PcieSwitch
