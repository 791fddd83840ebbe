import Mathlib.Data.List.Nodup
import Mathlib.Data.Nat.Bitwise
import PcieSwitch.Event.Summary
import PcieSwitch.Proofs.BitScan

/-!
This module contains what the bits of a summary say: which event each one stands for, and that a summary lists
each marked event once.
-/

namespace PcieSwitch
namespace Event

theorem bit_lt (event : Event) : event.bit < 32 := by
  cases event <;> decide

theorem ofBit?_eq_some_iff {kind : EventKind} {bit : Nat} {event : Event}
    : ofBit? kind bit = some event ↔ event.kind = kind ∧ event.bit = bit := by
  constructor
  . intro h
    have hfound := List.find?_some h
    simpa using hfound
  . rintro ⟨rfl, rfl⟩
    cases event <;> rfl

end Event

theorem toNat_bit {bit : Nat} (h : bit < 32) : ((1 : UInt32) <<< UInt32.ofNat bit).toNat = 2 ^ bit := by
  have hmod : (UInt32.ofNat bit).toNat % 32 = bit := by
    rw [UInt32.toNat_ofNat']
    omega
  rw [UInt32.toNat_shiftLeft, hmod, UInt32.toNat_one, Nat.one_shiftLeft]
  exact Nat.mod_eq_of_lt (Nat.pow_lt_pow_right (by omega) h)

theorem and_bit_ne_zero (word : UInt32) {bit : Nat} (h : bit < 32)
    : (word &&& 1 <<< UInt32.ofNat bit != 0) = word.toNat.testBit bit := by
  have hand : (word &&& 1 <<< UInt32.ofNat bit).toNat = (word.toNat.testBit bit).toNat * 2 ^ bit := by
    rw [UInt32.toNat_and, toNat_bit h, Nat.and_two_pow]
  rw [Bool.eq_iff_iff, bne_iff_ne, ← UInt32.toNat_inj.ne, hand]
  cases word.toNat.testBit bit <;> simp

theorem and_toUInt64_bit_ne_zero (word : UInt64) {bit : Nat} (h : bit < 32)
    : (word &&& ((1 : UInt32) <<< UInt32.ofNat bit).toUInt64 != 0) = word.toNat.testBit bit := by
  have hand : (word &&& ((1 : UInt32) <<< UInt32.ofNat bit).toUInt64).toNat
      = (word.toNat.testBit bit).toNat * 2 ^ bit := by
    rw [UInt64.toNat_and, UInt32.toNat_toUInt64, toNat_bit h, Nat.and_two_pow]
  rw [Bool.eq_iff_iff, bne_iff_ne, ← UInt64.toNat_inj.ne, hand]
  cases word.toNat.testBit bit <;> simp

namespace Summary

theorem mem_eventsOf {kind : EventKind} {word : UInt64} {event : Event}
    : event ∈ eventsOf kind word ↔ event.kind = kind ∧ word.toNat.testBit event.bit = true := by
  unfold eventsOf
  rw [List.mem_filterMap]
  constructor
  . rintro ⟨bit, hbit, hevent⟩
    obtain ⟨hkind, rfl⟩ := Event.ofBit?_eq_some_iff.mp hevent
    exact ⟨hkind, Scan.mem_bits.mp hbit⟩
  . rintro ⟨hkind, htest⟩
    exact ⟨event.bit, Scan.mem_bits.mpr htest, Event.ofBit?_eq_some_iff.mpr ⟨hkind, rfl⟩⟩

theorem pairwise_eventsOf (kind : EventKind) (word : UInt64)
    : (eventsOf kind word).Pairwise fun a b => a.bit < b.bit := by
  apply (Scan.pairwise_bits word).filterMap
  intro bit other hlt a ha b hb
  rw [(Event.ofBit?_eq_some_iff.mp ha).2, (Event.ofBit?_eq_some_iff.mp hb).2]
  exact hlt

theorem nodup_eventsOf (kind : EventKind) (word : UInt64) : (eventsOf kind word).Nodup := by
  apply (pairwise_eventsOf kind word).imp
  intro a b hlt heq
  rw [heq] at hlt
  exact Nat.lt_irrefl _ hlt

theorem mem_occurredIn {kind : EventKind} {words : List UInt64} {event : Event} {index : Nat}
    : (event, index) ∈ occurredIn kind words
        ↔
      ∃ word, words[index]? = some word ∧ event.kind = kind ∧ word.toNat.testBit event.bit = true := by
  unfold occurredIn
  rw [List.mem_flatMap]
  constructor
  . rintro ⟨⟨word, i⟩, hword, hmem⟩
    obtain ⟨e, he, heq⟩ := List.mem_map.mp hmem
    cases heq
    exact ⟨word, List.mem_zipIdx_iff_getElem?.mp hword, mem_eventsOf.mp he⟩
  . rintro ⟨word, hword, hevent⟩
    refine ⟨(word, index), List.mem_zipIdx_iff_getElem?.mpr hword, ?_⟩
    apply List.mem_map_of_mem
    exact mem_eventsOf.mpr hevent

theorem nodup_occurredIn (kind : EventKind) (words : List UInt64) : (occurredIn kind words).Nodup := by
  unfold occurredIn
  rw [List.nodup_flatMap]
  constructor
  . rintro ⟨word, i⟩ _
    apply (nodup_eventsOf kind word).map
    intro a b hab
    exact (Prod.mk.inj hab).1
  . have hplaces : (words.zipIdx.map Prod.snd).Nodup := by
      rw [List.zipIdx_map_snd]
      exact List.nodup_range'
    rw [List.Nodup, List.pairwise_map] at hplaces
    apply hplaces.imp
    rintro ⟨word, i⟩ ⟨other, j⟩ hij
    -- events are listed with the position of their word
    rintro ⟨event, k⟩ hleft hright
    obtain ⟨e, _, he⟩ := List.mem_map.mp hleft
    obtain ⟨e', _, he'⟩ := List.mem_map.mp hright
    apply hij
    rw [(Prod.mk.inj he).2, (Prod.mk.inj he').2]

def word? (s : Summary) (kind : EventKind) (index : Nat) : Option Nat :=
  match kind with
  | .global => [s.global.toNat][index]?
  | .partition => (s.partitions.map UInt32.toNat)[index]?
  | .function => (s.functions.map UInt32.toNat)[index]?

def Marks (s : Summary) (event : Event) (index : Nat) : Prop :=
  ∃ word, s.word? event.kind index = some word ∧ word.testBit event.bit = true

theorem mem_occurred {s : Summary} {event : Event} {index : Nat} : (event, index) ∈ s.occurred ↔ s.Marks event index := by
  unfold occurred Marks word?
  rw [List.mem_append, List.mem_append, mem_occurredIn, mem_occurredIn, mem_occurredIn]
  cases event.kind <;> simp [List.getElem?_singleton]

theorem nodup_occurred (s : Summary) : s.occurred.Nodup := by
  have hkind : ∀ {kind words} {x : Event × Nat}, x ∈ occurredIn kind words → x.1.kind = kind := by
    rintro kind words ⟨event, index⟩ hx
    obtain ⟨_, _, hkind, _⟩ := mem_occurredIn.mp hx
    exact hkind
  unfold occurred
  apply List.Nodup.append
  . apply List.Nodup.append
    . apply nodup_occurredIn
    . apply nodup_occurredIn
    . intro x hglobal hpartition
      cases (hkind hglobal).symm.trans (hkind hpartition)
  . apply nodup_occurredIn
  . intro x hbefore hfunction
    rcases List.mem_append.mp hbefore with hglobal | hpartition
    . cases (hkind hglobal).symm.trans (hkind hfunction)
    . cases (hkind hpartition).symm.trans (hkind hfunction)

end Summary
end PcieSwitch
