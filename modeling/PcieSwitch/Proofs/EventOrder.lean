import Mathlib.Data.List.Sort
import PcieSwitch.Event.Listing
import PcieSwitch.Proofs.KeyOrder

/-!
This module contains the order of a listing: records are compared by partition, then port, then event, then count,
and what is absent comes first.
-/

namespace PcieSwitch

theorem Event.number_inj {event other : Event} (h : event.number = other.number) : event = other := by
  have hlisted : ∀ e : Event, all[e.number]? = some e := by
    intro e
    cases e <;> rfl
  have hevent := hlisted event
  rw [h, hlisted other] at hevent
  exact (Option.some.inj hevent).symm

namespace EventRecord

def rank : Option UInt32 → Nat
  | none => 0
  | some n => n.toNat + 1

theorem rank_inj {a b : Option UInt32} (h : rank a = rank b) : a = b := by
  cases a with
  | none =>
    cases b with
    | none => rfl
    | some m => cases h
  | some n =>
    cases b with
    | none => cases h
    | some m => rw [UInt32.toNat.inj (Nat.succ.inj h)]

theorem leOption_iff {a b : Option UInt32} : leOption a b = true ↔ rank a ≤ rank b := by
  cases a with
  | none => simp [leOption, rank]
  | some n =>
    cases b with
    | none => simp [leOption, rank]
    | some m => simp [leOption, rank, UInt32.le_iff_toNat_le]

def key (r : EventRecord) : List Nat :=
  [rank r.partition, rank r.port, r.event.number, r.count.toNat]

theorem le_iff {r s : EventRecord} : r.le s = true ↔ r.key ≤ s.key := by
  have hcount : r.count ≤ s.count ↔ r.count.toNat < s.count.toNat ∨ r.count.toNat = s.count.toNat := by
    rw [UInt32.le_iff_toNat_le, Nat.le_iff_lt_or_eq]
  unfold le key
  simp only [cons_le_cons_iff, le_refl, and_true, bne_iff_ne]
  split
  . next hpartition =>
    have hrank : rank r.partition ≠ rank s.partition := fun h => hpartition (rank_inj h)
    rw [leOption_iff]
    omega
  . next hpartition =>
    rw [Decidable.not_not] at hpartition
    rw [hpartition]
    split
    . next hport =>
      have hrank : rank r.port ≠ rank s.port := fun h => hport (rank_inj h)
      rw [leOption_iff]
      omega
    . next hport =>
      rw [Decidable.not_not] at hport
      rw [hport]
      split
      . next hevent =>
        have hnumber : r.event.number ≠ s.event.number := fun h => hevent (Event.number_inj h)
        rw [decide_eq_true_iff]
        omega
      . next hevent =>
        rw [Decidable.not_not] at hevent
        rw [hevent, decide_eq_true_iff, hcount]
        omega

theorem key_inj {r s : EventRecord} (h : r.key = s.key) : r = s := by
  obtain ⟨hpartition, hrest⟩ := List.cons.inj h
  obtain ⟨hport, hrest⟩ := List.cons.inj hrest
  obtain ⟨hevent, hrest⟩ := List.cons.inj hrest
  obtain ⟨hcount, _⟩ := List.cons.inj hrest
  cases r
  cases s
  cases rank_inj hpartition
  cases rank_inj hport
  cases Event.number_inj hevent
  cases UInt32.toNat.inj hcount
  rfl

theorem pairwise_mergeSort (records : List EventRecord)
    : (records.mergeSort le).Pairwise fun r s => r.key ≤ s.key :=
  pairwise_mergeSort_of_key @le_iff records

/--
No two records have one key, so all ways to sort them agree.
-/
theorem mergeSort_eq_insertionSort (records : List EventRecord)
    : records.mergeSort le = records.insertionSort (fun r s => r.key ≤ s.key) := by
  have : Std.Total fun r s : EventRecord => r.key ≤ s.key := ⟨fun r s => le_total r.key s.key⟩
  have : IsTrans EventRecord fun r s => r.key ≤ s.key := ⟨fun _ _ _ => le_trans⟩
  have : Std.Antisymm fun r s : EventRecord => r.key ≤ s.key := ⟨fun _ _ hle hge => key_inj (le_antisymm hle hge)⟩
  have hperm : (records.mergeSort le).Perm (records.insertionSort fun r s => r.key ≤ s.key) :=
    (List.mergeSort_perm _ _).trans (List.perm_insertionSort _ _).symm
  exact hperm.eq_of_pairwise' (pairwise_mergeSort records) (List.pairwise_insertionSort _ records)

end EventRecord
end PcieSwitch
