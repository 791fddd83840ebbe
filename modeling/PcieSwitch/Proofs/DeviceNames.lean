import PcieSwitch.Discovery.Devices
import PcieSwitch.Proofs.Numerals
import PcieSwitch.Proofs.TextOutlines
import PcieSwitch.Proofs.TextPieces

/-!
This module contains the grammar of the names of devices. Every name that is read is of exactly one form, a path, an
address or an index, everything else is refused, and addresses and indices are read back as they are written.
-/

namespace PcieSwitch
namespace DeviceName

open Numeral

def IsWord (base : Nat) (cs : List Char) (n : Nat) : Prop :=
  IsNumeral base cs n ∧ n < 2 ^ 32

inductive IsAddress : List Char → Nat → Nat → Nat → Nat → Prop where
  | short (hbus : IsWord 16 b bus) (hdevice : IsWord 16 d device) (hfunction : IsWord 16 f function)
    : IsAddress (b ++ ':' :: d ++ '.' :: f) 0 bus device function
  | full (hdomain : IsWord 16 a domain) (hbus : IsWord 16 b bus) (hdevice : IsWord 16 d device)
      (hfunction : IsWord 16 f function)
    : IsAddress (a ++ ':' :: b ++ ':' :: d ++ '.' :: f) domain bus device function

inductive IsIndex : List Char → Nat → Prop where
  | number (h : IsNumber cs n) (hn : n < 2 ^ 32) : IsIndex cs n
  | named (h : IsWord 10 cs n) : IsIndex ("switchtec".toList ++ cs) n

inductive Names (s : String) : DeviceName → Prop where
  | path (h : '/' ∈ s.toList) : Names s (.path s)
  | address (h : IsAddress s.toList domain bus device function) : Names s (.address domain bus device function)
  | index (h : IsIndex s.toList n) : Names s (.index n)

theorem hexWord?_eq_some_iff {cs : List Char} {n : Nat} : hexWord? cs = some n ↔ IsWord 16 cs n := by
  unfold hexWord? IsWord
  rw [toOption_eq_some_iff, parseHex_eq_ok_iff]

theorem decWord?_eq_some_iff {cs : List Char} {n : Nat} : decWord? cs = some n ↔ IsWord 10 cs n := by
  unfold decWord? IsWord
  rw [toOption_eq_some_iff, parseDec_eq_ok_iff]

theorem IsWord.not_mem {cs : List Char} {n : Nat} (h : IsWord 16 cs n) {c : Char} (hplus : c ≠ '+')
    (hdigit : digit? 16 c = none) : c ∉ cs :=
  h.1.not_mem (by decide) hplus hdigit

theorem isAddress_of_parseAddress? {cs : List Char} {name : DeviceName} (h : parseAddress? cs = some name)
    : ∃ domain bus device function, name = .address domain bus device function
        ∧ IsAddress cs domain bus device function := by
  unfold parseAddress? at h
  obtain ⟨⟨head, f⟩, hpoint, hwords⟩ := Option.bind_eq_some_iff.mp h
  obtain ⟨rfl, _⟩ := Text.splitAtLast?_eq_some_iff.mp hpoint
  dsimp only at hwords
  split at hwords
  . next b d hcolons =>
    obtain ⟨_, _, rfl⟩ := Text.splitAtEach_eq_iff.mp hcolons
    obtain ⟨bus, hbus, hwords⟩ := Option.bind_eq_some_iff.mp hwords
    obtain ⟨device, hdevice, hwords⟩ := Option.bind_eq_some_iff.mp hwords
    obtain ⟨function, hfunction, hwords⟩ := Option.bind_eq_some_iff.mp hwords
    rw [hexWord?_eq_some_iff] at hbus hdevice hfunction
    cases hwords
    refine ⟨0, bus, device, function, rfl, ?_⟩
    have haddress := IsAddress.short hbus hdevice hfunction
    simpa using haddress
  . next a b d hcolons =>
    obtain ⟨_, _, rfl⟩ := Text.splitAtEach_eq_iff.mp hcolons
    obtain ⟨domain, hdomain, hwords⟩ := Option.bind_eq_some_iff.mp hwords
    obtain ⟨bus, hbus, hwords⟩ := Option.bind_eq_some_iff.mp hwords
    obtain ⟨device, hdevice, hwords⟩ := Option.bind_eq_some_iff.mp hwords
    obtain ⟨function, hfunction, hwords⟩ := Option.bind_eq_some_iff.mp hwords
    rw [hexWord?_eq_some_iff] at hdomain hbus hdevice hfunction
    cases hwords
    refine ⟨domain, bus, device, function, rfl, ?_⟩
    have haddress := IsAddress.full hdomain hbus hdevice hfunction
    simpa using haddress
  . cases hwords

theorem parseAddress?_of_isAddress {cs : List Char} {domain bus device function : Nat}
    (h : IsAddress cs domain bus device function) : parseAddress? cs = some (.address domain bus device function) := by
  have hcolon {cs : List Char} {n : Nat} (h : IsWord 16 cs n) : ':' ∉ cs := h.not_mem (by decide) (by decide)
  have hpoint {cs : List Char} {n : Nat} (h : IsWord 16 cs n) : '.' ∉ cs := h.not_mem (by decide) (by decide)
  unfold parseAddress?
  cases h with
  | @short b _ d _ f _ hbus hdevice hfunction =>
    have hwords : Text.splitAtEach ':' (b ++ ':' :: d) = [b, d] := by
      rw [Text.splitAtEach_append (hcolon hbus), Text.splitAtEach_of_not_mem (hcolon hdevice)]
    have hcut := Text.splitAtLast?_append (b ++ ':' :: d) (hpoint hfunction)
    rw [← hexWord?_eq_some_iff] at hbus hdevice hfunction
    simp only [hcut, Option.bind_eq_bind, Option.bind_some, hwords, hbus, hdevice, hfunction]
    rfl
  | @full a _ b _ d _ f _ hdomain hbus hdevice hfunction =>
    have hwords : Text.splitAtEach ':' (a ++ ':' :: b ++ ':' :: d) = [a, b, d] := by
      rw [List.append_assoc, List.cons_append, Text.splitAtEach_append (hcolon hdomain)]
      rw [Text.splitAtEach_append (hcolon hbus), Text.splitAtEach_of_not_mem (hcolon hdevice)]
    have hcut := Text.splitAtLast?_append (a ++ ':' :: b ++ ':' :: d) (hpoint hfunction)
    rw [← hexWord?_eq_some_iff] at hdomain hbus hdevice hfunction
    simp only [hcut, Option.bind_eq_bind, Option.bind_some, hwords, hdomain, hbus, hdevice, hfunction]
    rfl

theorem parseIndex?_eq_some_iff {cs : List Char} {n : Nat} : parseIndex? cs = some n ↔ IsNumber cs n ∧ n < 2 ^ 32 := by
  unfold parseIndex?
  split
  . next digits hmark => rw [hexWord?_eq_some_iff, isNumber_iff_of_mark hmark, IsWord]
  . next hmark => rw [decWord?_eq_some_iff, isNumber_iff_of_no_mark hmark, IsWord]

/--
The word `switchtec` starts no number, so at most one of the two forms of an index is there.
-/
theorem isIndex_iff {cs : List Char} {n : Nat}
    : IsIndex cs n
        ↔
      parseIndex? cs = some n ∨ parseIndex? cs = none ∧ (Text.after? "switchtec".toList cs).bind decWord? = some n := by
  constructor
  . intro h
    cases h with
    | number h hn => exact .inl (parseIndex?_eq_some_iff.mpr ⟨h, hn⟩)
    | @named digits _ h =>
      refine .inr ⟨?_, ?_⟩
      . cases hindex : parseIndex? ("switchtec".toList ++ digits) with
        | none => rfl
        | some m =>
          have hnumber := (parseIndex?_eq_some_iff.mp hindex).1
          exact absurd List.mem_cons_self (hnumber.not_mem (by decide) (by decide))
      . rw [Text.after?_append, Option.bind_some]
        exact decWord?_eq_some_iff.mpr h
  . rintro (h | ⟨_, h⟩)
    . obtain ⟨hnumber, hn⟩ := parseIndex?_eq_some_iff.mp h
      exact .number hnumber hn
    . obtain ⟨digits, hword, hdigits⟩ := Option.bind_eq_some_iff.mp h
      rw [Text.after?_eq_some_iff.mp hword]
      exact .named (decWord?_eq_some_iff.mp hdigits)

theorem IsIndex.not_mem {cs : List Char} {n : Nat} (h : IsIndex cs n) {c : Char} (hsign : c ∉ ['+', 'x', 'X'])
    (hword : c ∉ "switchtec".toList) (hdigit : digit? 16 c = none) : c ∉ cs := by
  cases h with
  | number h _ => exact h.not_mem hsign hdigit
  | named h => exact List.not_mem_append hword (h.1.not_mem (by decide) (List.ne_of_not_mem_cons hsign) hdigit)

theorem slash_not_mem_of_isIndex {cs : List Char} {n : Nat} (h : IsIndex cs n) : '/' ∉ cs :=
  h.not_mem (by decide) (by decide) (by decide)

theorem slash_not_mem_of_isAddress {cs : List Char} {domain bus device function : Nat}
    (h : IsAddress cs domain bus device function) : '/' ∉ cs := by
  have hword {cs : List Char} {n : Nat} (h : IsWord 16 cs n) : '/' ∉ cs := h.not_mem (by decide) (by decide)
  cases h with
  | short hbus hdevice hfunction => simp [hword hbus, hword hdevice, hword hfunction]
  | full hdomain hbus hdevice hfunction => simp [hword hdomain, hword hbus, hword hdevice, hword hfunction]

theorem not_isIndex_of_isAddress {cs : List Char} {domain bus device function : Nat}
    (h : IsAddress cs domain bus device function) (n : Nat) : ¬ IsIndex cs n := by
  have hpoint : '.' ∈ cs := by
    cases h with
    | short _ _ _ => simp
    | full _ _ _ _ => simp
  intro hindex
  exact hindex.not_mem (by decide) (by decide) (by decide) hpoint

theorem parse_cases (s : String)
    : (∃ name, parse s = .ok name ∧ Names s name) ∨ parse s = .error (.deviceNotFound s) := by
  unfold parse
  dsimp only
  split
  . next hslash => exact .inl ⟨_, rfl, .path hslash⟩
  . split
    . next haddress =>
      obtain ⟨domain, bus, device, function, rfl, hform⟩ := isAddress_of_parseAddress? haddress
      exact .inl ⟨_, rfl, .address hform⟩
    . split
      . next hindex => exact .inl ⟨_, rfl, .index (isIndex_iff.mpr (.inl hindex))⟩
      . next hnone =>
        split
        . next hnamed => exact .inl ⟨_, rfl, .index (isIndex_iff.mpr (.inr ⟨hnone, hnamed⟩))⟩
        . exact .inr rfl

theorem parse_of_names {s : String} {name : DeviceName} (h : Names s name) : parse s = .ok name := by
  unfold parse
  dsimp only
  cases h with
  | path h => rw [if_pos h]
  | address h => rw [if_neg (slash_not_mem_of_isAddress h), parseAddress?_of_isAddress h]
  | @index n h =>
    have hnone : parseAddress? s.toList = none := by
      cases haddress : parseAddress? s.toList with
      | none => rfl
      | some name =>
        obtain ⟨_, _, _, _, _, hform⟩ := isAddress_of_parseAddress? haddress
        exact absurd h (not_isIndex_of_isAddress hform n)
    rw [if_neg (slash_not_mem_of_isIndex h), hnone]
    dsimp only
    rcases isIndex_iff.mp h with hindex | ⟨hnone, hnamed⟩
    . rw [hindex]
    . rw [hnone, hnamed]

theorem parse_eq_ok_iff {s : String} {name : DeviceName} : parse s = .ok name ↔ Names s name := by
  refine ⟨?_, parse_of_names⟩
  intro h
  rcases parse_cases s with ⟨other, hparse, hother⟩ | hparse
  . rw [hparse] at h
    cases h
    exact hother
  . rw [hparse] at h
    cases h

theorem parse_eq_error_iff {s : String} {e : Error}
    : parse s = .error e ↔ e = .deviceNotFound s ∧ ∀ name, ¬ Names s name := by
  simp only [← parse_eq_ok_iff]
  rcases parse_cases s with ⟨name, hparse, _⟩ | hparse
  . simp [hparse]
  . simp [hparse, eq_comm]

def addressText (domain bus device function : Nat) : String :=
  Text.hex domain 4 ++ ":" ++ Text.hex bus 2 ++ ":" ++ Text.hex device 2 ++ "." ++ Text.hex function

theorem addressDirectory_eq (domain bus device function : Nat)
    : Discovery.addressDirectory domain bus device function
        =
      "/sys/bus/pci/devices/" ++ addressText domain bus device function ++ "/switchtec" := by
  unfold Discovery.addressDirectory addressText
  simp only [String.append_assoc]

theorem isWord_hex (n : UInt32) (width : Nat) : IsWord 16 (Text.hex n.toNat width).toList n.toNat :=
  ⟨isNumeral_hex n.toNat width, n.toNat_lt⟩

theorem parse_addressText (domain bus device function : UInt32)
    : parse (addressText domain.toNat bus.toNat device.toNat function.toNat)
        =
      .ok (.address domain.toNat bus.toNat device.toNat function.toNat) := by
  apply parse_of_names
  apply Names.address
  have haddress := IsAddress.full (isWord_hex domain 4) (isWord_hex bus 2) (isWord_hex device 2) (isWord_hex function 1)
  simpa [addressText, String.toList_append] using haddress

theorem parse_decimal (n : UInt32) : parse (toString n.toNat) = .ok (.index n.toNat) :=
  parse_of_names (.index (.number (isNumber_repr n.toNat) n.toNat_lt))

theorem parse_hexadecimal (n : UInt32) : parse ("0x" ++ Text.hex n.toNat) = .ok (.index n.toNat) :=
  parse_of_names (.index (.number (isNumber_hex n.toNat 1) n.toNat_lt))

theorem parse_named (n : UInt32) : parse ("switchtec" ++ toString n.toNat) = .ok (.index n.toNat) := by
  apply parse_of_names
  apply Names.index
  rw [String.toList_append]
  exact .named ⟨isNumeral_repr n.toNat, n.toNat_lt⟩

/--
A name is read as what it names, and refused if it names nothing. No address is an index as well. An address is read
back from the directory of its device, and an index from its digits, also after the word `switchtec`.
-/
theorem names_are_read_by_one_grammar (s : String)
    : (∀ name, parse s = .ok name ↔ Names s name)
        ∧
      (∀ e, parse s = .error e ↔ e = .deviceNotFound s ∧ ∀ name, ¬ Names s name)
        ∧
      (∀ domain bus device function n,
        ¬ (IsAddress s.toList domain bus device function ∧ IsIndex s.toList n))
        ∧
      (∀ domain bus device function : UInt32,
        let text := addressText domain.toNat bus.toNat device.toNat function.toNat
        Discovery.addressDirectory domain.toNat bus.toNat device.toNat function.toNat
            = "/sys/bus/pci/devices/" ++ text ++ "/switchtec"
          ∧
        parse text = .ok (.address domain.toNat bus.toNat device.toNat function.toNat))
        ∧
      (∀ n : UInt32, parse (toString n.toNat) = .ok (.index n.toNat)
        ∧ parse ("switchtec" ++ toString n.toNat) = .ok (.index n.toNat)) := by
  refine ⟨fun _ => parse_eq_ok_iff, fun _ => parse_eq_error_iff, ?_, ?_, ?_⟩
  . rintro _ _ _ _ n ⟨haddress, hindex⟩
    exact not_isIndex_of_isAddress haddress n hindex
  . intro domain bus device function
    exact ⟨addressDirectory_eq _ _ _ _, parse_addressText domain bus device function⟩
  . intro n
    exact ⟨parse_decimal n, parse_named n⟩

example : parse "+3:0a.1" = .ok (.address 0 3 10 1) := by
  decide +kernel

end DeviceName
end PcieSwitch
