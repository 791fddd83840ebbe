import Mathlib.Data.Nat.Bitwise
import PcieSwitch.CommandLine.Values
import PcieSwitch.Proofs.Checks
import PcieSwitch.Proofs.Numerals
import PcieSwitch.Proofs.TextPieces

/-!
This module contains the grammar of masks of ports. A mask is a hexadecimal byte after a mark, or a list of ports and of
ranges, which is accepted if and only if each item of it is, and then stands for all the ports that some item covers.
-/

namespace PcieSwitch
namespace Value

open Numeral

inductive IsPorts : List Char → Nat → Nat → Prop where
  | one (h : IsNumeral 10 cs port) (hport : port ≤ 7) : IsPorts cs port port
  | range (hfirst : '-' ∉ before) (hbefore : Text.Trims before l) (hafter : Text.Trims after h)
      (hl : IsNumeral 10 l low) (hh : IsNumeral 10 h high) (hle : low ≤ high) (hhigh : high ≤ 7)
    : IsPorts (before ++ '-' :: after) low high

def Covers (item : List Char) (port : Nat) : Prop :=
  ∃ low high, IsPorts item low high ∧ low ≤ port ∧ port ≤ high

def Lists (cs : List Char) (items : List (List Char)) : Prop :=
  ∃ pieces cores, pieces ≠ [] ∧ (∀ piece ∈ pieces, ',' ∉ piece) ∧ List.intercalate [','] pieces = cs
    ∧ List.Forall₂ Text.Trims pieces cores ∧ items = cores.filter (· ≠ [])

def portItems (s : String) : List (List Char) :=
  ((Text.splitAtEach ',' s.toList).map Text.trim).filter (· ≠ [])

theorem lists_portItems (s : String) : Lists s.toList (portItems s) := by
  obtain ⟨hne, hpieces, hwhole⟩ := Text.splitAtEach_eq_iff.mp (rfl : Text.splitAtEach ',' s.toList = _)
  refine ⟨_, _, hne, hpieces, hwhole, ?_, rfl⟩
  rw [List.forall₂_map_right_iff, List.forall₂_same]
  exact fun piece _ => Text.trims_trim piece

theorem parseEnds_of_isPorts {item : List Char} {low high : Nat} (h : IsPorts item low high)
    : parseEnds item = .ok (low, high) ∧ low ≤ high ∧ high ≤ 7 := by
  have hparse {cs : List Char} {n : Nat} (h : IsNumeral 10 cs n) (hn : n ≤ 7) : parseDec 32 cs = .ok n :=
    parseDec_eq_ok_iff.mpr ⟨h, Nat.lt_of_le_of_lt hn (by decide)⟩
  unfold parseEnds
  cases h with
  | one h hport =>
    rw [Text.splitAtFirst?_eq_none_iff.mpr (h.not_mem (by decide) (by decide) (by decide)), hparse h hport]
    exact ⟨rfl, Nat.le_refl _, hport⟩
  | range hfirst hbefore hafter hl hh hle hhigh =>
    rw [Text.splitAtFirst?_append hfirst]
    dsimp only
    rw [hbefore.trim_eq, hafter.trim_eq, hparse hl (Nat.le_trans hle hhigh), hparse hh hhigh]
    exact ⟨rfl, hle, hhigh⟩

theorem isPorts_of_parseEnds {item : List Char} {low high : Nat} (h : parseEnds item = .ok (low, high))
    (hle : low ≤ high) (hhigh : high ≤ 7) : IsPorts item low high := by
  unfold parseEnds at h
  split at h
  . next before after hcut =>
    obtain ⟨rfl, hfirst⟩ := Text.splitAtFirst?_eq_some_iff.mp hcut
    obtain ⟨l, hl, h⟩ := bind_eq_ok_iff.mp h
    obtain ⟨r, hr, h⟩ := bind_eq_ok_iff.mp h
    cases h
    rw [parseDec_eq_ok_iff] at hl hr
    exact .range hfirst (Text.trims_trim _) (Text.trims_trim _) hl.1 hr.1 hle hhigh
  . obtain ⟨port, hport, h⟩ := bind_eq_ok_iff.mp h
    cases h
    rw [parseDec_eq_ok_iff] at hport
    exact .one hport.1 hhigh

theorem covers_iff {item : List Char} {low high : Nat} (h : IsPorts item low high) {port : Nat}
    : Covers item port ↔ low ≤ port ∧ port ≤ high := by
  constructor
  . rintro ⟨_, _, hother, hport⟩
    have hends := (parseEnds_of_isPorts h).1.symm.trans (parseEnds_of_isPorts hother).1
    cases hends
    exact hport
  . exact fun hport => ⟨low, high, h, hport⟩

theorem testBit_rangeMask {low high : Nat} (hle : low ≤ high) (p : Nat)
    : (rangeMask low high).testBit p = true ↔ low ≤ p ∧ p ≤ high := by
  have hones : rangeMask low high = 2 ^ low * (2 ^ (high + 1 - low) - 1) := by
    have hwidth : low + (high + 1 - low) = high + 1 := by
      omega
    unfold rangeMask
    rw [Nat.one_shiftLeft, Nat.one_shiftLeft, Nat.mul_sub, ← Nat.pow_add, hwidth, Nat.mul_one]
  rw [hones, Nat.testBit_two_pow_mul, Nat.testBit_two_pow_sub_one, Bool.and_eq_true, decide_eq_true_iff,
    decide_eq_true_iff]
  omega

theorem testBit_or_rangeMask (mask : UInt8) {low high : Nat} (hle : low ≤ high) (hhigh : high ≤ 7) (p : Nat)
    : (mask ||| UInt8.ofNat (rangeMask low high)).toNat.testBit p = true
        ↔
      mask.toNat.testBit p = true ∨ low ≤ p ∧ p ≤ high := by
  have hbyte : (rangeMask low high).testBit p = true → p < 8 := by
    intro h
    exact Nat.lt_succ_of_le (Nat.le_trans ((testBit_rangeMask hle p).mp h).2 hhigh)
  rw [UInt8.toNat_or, Nat.testBit_or, Bool.or_eq_true, UInt8.toNat_ofNat', Nat.testBit_mod_two_pow, Bool.and_eq_true]
  rw [decide_eq_true_iff, and_iff_right_of_imp hbyte, testBit_rangeMask hle]

theorem parsePorts_of_isPorts {item : List Char} {low high : Nat} (h : IsPorts item low high) (mask : UInt8)
    (items : List (List Char))
    : parsePorts mask (item :: items) = parsePorts (mask ||| UInt8.ofNat (rangeMask low high)) items := by
  obtain ⟨hends, hfits⟩ := parseEnds_of_isPorts h
  rw [parsePorts, hends]
  exact if_pos hfits

theorem exists_parsePorts {items : List (List Char)} (h : ∀ item ∈ items, ∃ low high, IsPorts item low high)
    (mask : UInt8)
    : ∃ m, parsePorts mask items = .ok m
        ∧ ∀ p, m.toNat.testBit p = true ↔ mask.toNat.testBit p = true ∨ ∃ item ∈ items, Covers item p := by
  induction items generalizing mask with
  | nil => exact ⟨mask, rfl, by simp⟩
  | cons item items ih =>
    obtain ⟨⟨low, high, hitem⟩, hrest⟩ := List.forall_mem_cons.mp h
    obtain ⟨m, hparse, hbits⟩ := ih hrest (mask ||| UInt8.ofNat (rangeMask low high))
    obtain ⟨hends, hle, hhigh⟩ := parseEnds_of_isPorts hitem
    refine ⟨m, by rw [parsePorts_of_isPorts hitem, hparse], ?_⟩
    intro p
    rw [hbits, testBit_or_rangeMask mask hle hhigh, ← covers_iff hitem, List.exists_mem_cons_iff, or_assoc]

theorem isPorts_of_parsePorts {items : List (List Char)} {mask m : UInt8} (h : parsePorts mask items = .ok m)
    : ∀ item ∈ items, ∃ low high, IsPorts item low high := by
  induction items generalizing mask with
  | nil => exact List.forall_mem_nil _
  | cons item items ih =>
    unfold parsePorts at h
    split at h
    . cases h
    . next low high hends =>
      split at h
      . next hfits => exact List.forall_mem_cons.mpr ⟨⟨low, high, isPorts_of_parseEnds hends hfits.1 hfits.2⟩, ih h⟩
      . cases h

theorem parsePortMask_eq_ok_iff_of_mark {s : String} {digits : List Char} (hmark : Marks s.toList digits) {m : UInt8}
    : parsePortMask s = .ok m ↔ IsNumeral 16 digits m.toNat := by
  unfold parsePortMask
  rw [afterHexMark?_eq_some_iff.mpr hmark]
  dsimp only
  cases hparse : parseHex 8 digits with
  | error e =>
    refine ⟨nofun, ?_⟩
    intro h
    rw [parseHex_eq_ok_iff.mpr ⟨h, m.toNat_lt⟩] at hparse
    cases hparse
  | ok n =>
    obtain ⟨hnumeral, hn⟩ := parseHex_eq_ok_iff.mp hparse
    constructor
    . rintro ⟨⟩
      rw [UInt8.toNat_ofNat_of_lt' hn]
      exact hnumeral
    . intro h
      rw [hnumeral.unique (by decide) (by decide) h]
      exact congrArg Except.ok (UInt8.ofNat_toNat)

def IsUnmarked (s : String) : Prop :=
  ∀ digits, ¬ Marks s.toList digits

theorem isUnmarked_iff {s : String} : IsUnmarked s ↔ afterHexMark? s.toList = none := by
  unfold IsUnmarked
  simp only [← afterHexMark?_eq_some_iff, Option.eq_none_iff_forall_ne_some, ne_eq]

theorem parsePortMask_of_isUnmarked {s : String} (h : IsUnmarked s) : parsePortMask s = parsePorts 0 (portItems s) := by
  unfold parsePortMask
  rw [isUnmarked_iff.mp h]
  rfl

/--
A list of ports is taken apart, and its mask made up of the ports that the items cover. One item that is no port and no
range refuses all of it.
-/
structure CoversItems (s : String) : Prop where
  listed : Lists s.toList (portItems s)
  accepted : (∃ m, parsePortMask s = .ok m) ↔ ∀ item ∈ portItems s, ∃ low high, IsPorts item low high
  covered : ∀ m, parsePortMask s = .ok m →
    ∀ port, m.toNat.testBit port = true ↔ ∃ item ∈ portItems s, Covers item port
  refused : ∀ item ∈ portItems s, (∀ low high, ¬ IsPorts item low high) → ∃ e, parsePortMask s = .error e

theorem coversItems_of_isUnmarked {s : String} (h : IsUnmarked s) : CoversItems s := by
  have hread (hitems : ∀ item ∈ portItems s, ∃ low high, IsPorts item low high)
      : ∃ m, parsePortMask s = .ok m
          ∧ ∀ port, m.toNat.testBit port = true ↔ ∃ item ∈ portItems s, Covers item port := by
    obtain ⟨m, hparse, hbits⟩ := exists_parsePorts hitems 0
    refine ⟨m, by rw [parsePortMask_of_isUnmarked h, hparse], ?_⟩
    simpa using hbits
  have hitems {m : UInt8} (hparse : parsePortMask s = .ok m)
      : ∀ item ∈ portItems s, ∃ low high, IsPorts item low high := by
    rw [parsePortMask_of_isUnmarked h] at hparse
    exact isPorts_of_parsePorts hparse
  exact {
    listed := lists_portItems s
    accepted := by
      constructor
      . rintro ⟨m, hparse⟩
        exact hitems hparse
      . intro hall
        obtain ⟨m, hparse, _⟩ := hread hall
        exact ⟨m, hparse⟩
    covered := by
      intro m hparse
      obtain ⟨other, hother, hbits⟩ := hread (hitems hparse)
      rw [hparse] at hother
      cases hother
      exact hbits
    refused := by
      intro item hitem hnone
      cases hparse : parsePortMask s with
      | error e => exact ⟨e, rfl⟩
      | ok m =>
        obtain ⟨low, high, hports⟩ := hitems hparse item hitem
        exact absurd hports (hnone low high)
  }

theorem eq_of_testBit_eq {m m' : UInt8} (h : ∀ port, m.toNat.testBit port = true ↔ m'.toNat.testBit port = true)
    : m = m' := by
  apply UInt8.toNat_inj.mp
  apply Nat.eq_of_testBit_eq
  intro port
  rw [Bool.eq_iff_iff]
  exact h port

section

variable {s t : String} {m m' : UInt8}

theorem CoversItems.eq_iff (hs : CoversItems s) (ht : CoversItems t) (hm : parsePortMask s = .ok m)
    (hm' : parsePortMask t = .ok m')
    : m = m' ↔ ∀ port, (∃ item ∈ portItems s, Covers item port) ↔ ∃ item ∈ portItems t, Covers item port := by
  simp only [← hs.covered m hm, ← ht.covered m' hm']
  constructor
  . rintro rfl port
    exact Iff.rfl
  . exact eq_of_testBit_eq

theorem CoversItems.parsePortMask_eq_ok (hs : CoversItems s) (ht : CoversItems t)
    (h : ∀ item, item ∈ portItems s ↔ item ∈ portItems t) (hm : parsePortMask s = .ok m) : parsePortMask t = .ok m := by
  have hitems := hs.accepted.mp ⟨m, hm⟩
  obtain ⟨m', hm'⟩ := ht.accepted.mpr fun item hitem => hitems item ((h item).mpr hitem)
  have hsame : m = m' := by
    rw [hs.eq_iff ht hm hm']
    simp only [h, implies_true]
  rw [hsame, hm']

end

/--
A mask after a mark is the byte of its digits. Every other mask is a list of ports, and it only matters which items
there are: neither their order nor their number, nor in lists that are accepted how they overlap.
-/
theorem port_masks_cover_their_items (s t : String)
    : (∀ digits, Marks s.toList digits → ∀ m, parsePortMask s = .ok m ↔ IsNumeral 16 digits m.toNat)
        ∧
      (IsUnmarked s → CoversItems s)
        ∧
      (IsUnmarked s → IsUnmarked t → (∀ item, item ∈ portItems s ↔ item ∈ portItems t) →
        (parsePortMask s).toOption = (parsePortMask t).toOption)
        ∧
      (IsUnmarked s → IsUnmarked t → ∀ m m', parsePortMask s = .ok m → parsePortMask t = .ok m' →
        (m = m' ↔ ∀ port, (∃ item ∈ portItems s, Covers item port) ↔ ∃ item ∈ portItems t, Covers item port)) := by
  refine ⟨fun _ hmark _ => parsePortMask_eq_ok_iff_of_mark hmark, coversItems_of_isUnmarked, ?_, ?_⟩
  . intro hs ht hsame
    have hs := coversItems_of_isUnmarked hs
    have ht := coversItems_of_isUnmarked ht
    ext m
    rw [toOption_eq_some_iff, toOption_eq_some_iff]
    exact ⟨hs.parsePortMask_eq_ok ht hsame, ht.parsePortMask_eq_ok hs fun item => (hsame item).symm⟩
  . intro hs ht m m' hm hm'
    exact (coversItems_of_isUnmarked hs).eq_iff (coversItems_of_isUnmarked ht) hm hm'

theorem port_masks_of_lists_and_byte
    : parsePortMask "0X+fF" = .ok 255
        ∧
      parsePortMask " 7, +1 -3,,2" = .ok 0x8E
        ∧
      (parsePortMask " 7, +1 -3,,2").toOption = (parsePortMask "2,7,+1 -3,7").toOption
        ∧
      (∀ port, (∃ item ∈ portItems " 7, +1 -3,,2", Covers item port) ↔ ∃ item ∈ portItems "7,1-2,2-3", Covers item port)
        ∧
      ∃ e, parsePortMask "7,1-3,8" = .error e := by
  have hmark : Marks "0X+fF".toList "+fF".toList := afterHexMark?_eq_some_iff.mp (by decide +kernel)
  have hlist : IsUnmarked " 7, +1 -3,,2" := isUnmarked_iff.mpr (by decide +kernel)
  have hrepeated : IsUnmarked "2,7,+1 -3,7" := isUnmarked_iff.mpr (by decide +kernel)
  have hoverlap : IsUnmarked "7,1-2,2-3" := isUnmarked_iff.mpr (by decide +kernel)
  have hrefused : IsUnmarked "7,1-3,8" := isUnmarked_iff.mpr (by decide +kernel)
  refine ⟨?_, by decide +kernel, ?_, ?_, ?_⟩
  . have hbyte : parseHex 8 "+fF".toList = .ok 255 := by decide +kernel
    exact ((port_masks_cover_their_items "0X+fF" "").1 _ hmark 255).mpr (parseHex_eq_ok_iff.mp hbyte).1
  . have hsame : portItems "2,7,+1 -3,7" = ["2".toList, "7".toList, "+1 -3".toList, "7".toList] := by decide +kernel
    have hitems : portItems " 7, +1 -3,,2" = ["7".toList, "+1 -3".toList, "2".toList] := by decide +kernel
    apply (port_masks_cover_their_items " 7, +1 -3,,2" "2,7,+1 -3,7").2.2.1 hlist hrepeated
    intro item
    rw [hsame, hitems]
    simp only [List.mem_cons]
    grind
  . have hcovered := (port_masks_cover_their_items " 7, +1 -3,,2" "7,1-2,2-3").2.2.2 hlist hoverlap 0x8E 0x8E
    exact (hcovered (by decide +kernel) (by decide +kernel)).mp rfl
  . have hnone : ∀ low high, ¬ IsPorts "8".toList low high := by
      intro low high h
      obtain ⟨hends, _, hhigh⟩ := parseEnds_of_isPorts h
      have hparse : parseEnds "8".toList = .ok (8, 8) := by decide +kernel
      rw [hparse] at hends
      cases hends
      exact absurd hhigh (by decide)
    exact ((port_masks_cover_their_items "7,1-3,8" "").2.1 hrefused).refused _ (by decide +kernel) hnone

end Value
end PcieSwitch
