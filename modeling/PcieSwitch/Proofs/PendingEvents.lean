import PcieSwitch.Proofs.EventBits
import PcieSwitch.Proofs.EventWork

/-!
This module contains what it means that an event is pending at an index, and that a summary which marks an event
there meets exactly the summaries in which it is pending.
-/

namespace PcieSwitch
namespace Summary

/--
The event is pending at an index. At all of them means in the word of any partition or port function that there can
be.
-/
def Pending (s : Summary) (event : Event) (index : EventIndex) : Prop :=
  match event.kind, index with
  | .global, _ => s.global.toNat.testBit event.bit = true
  | .partition, .localPartition => s.localPartition.toNat.testBit event.bit = true
  | .partition, .all => ∃ i < maxPartitions, s.Marks event i
  | .function, .all => ∃ i < maxFunctions, s.Marks event i
  | .partition, .only i | .function, .only i => s.Marks event i
  | .function, .localPartition => False

theorem meet_iff {n bit : Nat} (hbit : bit < 32) {P : Nat → Prop} [DecidablePred P] {ws : List UInt32}
    (hws : ∀ i, ws[i]? = if i < n then some (if P i then 1 <<< UInt32.ofNat bit else 0) else none) (vs : List UInt32)
    : meet ws vs = true ↔ ∃ i < n, P i ∧ ∃ word : UInt32, vs[i]? = some word ∧ word.toNat.testBit bit = true := by
  unfold meet
  rw [List.any_eq_true]
  constructor
  . rintro ⟨⟨w, v⟩, hmem, hmeet⟩
    obtain ⟨i, hi⟩ := List.mem_iff_getElem?.mp hmem
    obtain ⟨hw, hv⟩ := List.getElem?_zip_eq_some.mp hi
    rw [hws] at hw
    dsimp only at hw hv hmeet
    split at hw
    . next hlt =>
      cases hw
      split at hmeet
      . next hP =>
        rw [UInt32.and_comm, and_bit_ne_zero v hbit] at hmeet
        exact ⟨i, hlt, hP, v, hv, hmeet⟩
      . rw [UInt32.zero_and] at hmeet
        cases hmeet
    . cases hw
  . rintro ⟨i, hlt, hP, v, hv, htest⟩
    have hw : ws[i]? = some (1 <<< UInt32.ofNat bit) := by
      rw [hws, if_pos hlt, if_pos hP]
    refine ⟨(1 <<< UInt32.ofNat bit, v), List.mem_of_getElem? (List.getElem?_zip_eq_some.mpr ⟨hw, hv⟩), ?_⟩
    dsimp only
    rw [UInt32.and_comm, and_bit_ne_zero v hbit]
    exact htest

theorem meet_zeros (n : Nat) (vs : List UInt32) : meet (List.replicate n 0) vs = false := by
  have hws : ∀ i, (List.replicate n (0 : UInt32))[i]?
      = if i < n then some (if False then 1 <<< UInt32.ofNat 0 else 0) else none := by
    intro i
    rw [List.getElem?_replicate, if_neg not_false]
  rw [← Bool.not_eq_true, meet_iff (by decide) hws]
  rintro ⟨i, _, hfalse, _⟩
  exact hfalse

theorem meet_all {bit : Nat} (hbit : bit < 32) (n : Nat) (vs : List UInt32)
    : meet ((List.replicate n (0 : UInt32)).map (· ||| 1 <<< UInt32.ofNat bit)) vs = true
        ↔
      ∃ i < n, ∃ word : UInt32, vs[i]? = some word ∧ word.toNat.testBit bit = true := by
  have hws : ∀ i, ((List.replicate n 0).map (· ||| (1 : UInt32) <<< UInt32.ofNat bit))[i]?
      = if i < n then some (if True then 1 <<< UInt32.ofNat bit else 0) else none := by
    intro i
    rw [List.map_replicate, List.getElem?_replicate, if_pos trivial, UInt32.zero_or]
  rw [meet_iff hbit hws]
  simp only [true_and]

theorem meet_only {bit : Nat} (hbit : bit < 32) {n j : Nat} (hj : j < n) (vs : List UInt32)
    : meet ((List.replicate n 0).modify j (· ||| 1 <<< UInt32.ofNat bit)) vs = true
        ↔
      ∃ word : UInt32, vs[j]? = some word ∧ word.toNat.testBit bit = true := by
  have hws : ∀ i, ((List.replicate n 0).modify j (· ||| (1 : UInt32) <<< UInt32.ofNat bit))[i]?
      = if i < n then some (if i = j then 1 <<< UInt32.ofNat bit else 0) else none := by
    intro i
    rw [List.getElem?_modify, List.getElem?_replicate]
    by_cases hi : i < n
    . rw [if_pos hi, if_pos hi, Option.map_eq_map, Option.map_some, UInt32.zero_or]
      by_cases hij : i = j
      . rw [if_pos hij, if_pos hij.symm]
      . rw [if_neg hij, if_neg (Ne.symm hij)]
    . rw [if_neg hi, if_neg hi]
      rfl
  rw [meet_iff hbit hws]
  constructor
  . rintro ⟨i, _, rfl, hword⟩
    exact hword
  . intro hword
    exact ⟨j, hj, rfl, hword⟩

theorem marks_partition {s : Summary} {event : Event} (hkind : event.kind = .partition) (i : Nat)
    : s.Marks event i
        ↔
      ∃ word : UInt32, s.partitions[i]? = some word ∧ word.toNat.testBit event.bit = true := by
  unfold Marks word?
  rw [hkind]
  simp [List.getElem?_map]

theorem marks_function {s : Summary} {event : Event} (hkind : event.kind = .function) (i : Nat)
    : s.Marks event i
        ↔
      ∃ word : UInt32, s.functions[i]? = some word ∧ word.toNat.testBit event.bit = true := by
  unfold Marks word?
  rw [hkind]
  simp [List.getElem?_map]

section

variable (s : Summary)

theorem intersects_global (word : UInt64) : intersects { empty with global := word } s = (word &&& s.global != 0) := by
  simp [intersects, empty, meet_zeros]

theorem intersects_localPartition (word : UInt32)
    : intersects { empty with localPartition := word } s = (word &&& s.localPartition != 0) := by
  simp [intersects, empty, meet_zeros]

theorem intersects_partitions (words : List UInt32)
    : intersects { empty with partitions := words } s = meet words s.partitions := by
  simp [intersects, empty, meet_zeros]

theorem intersects_functions (words : List UInt32)
    : intersects { empty with functions := words } s = meet words s.functions := by
  simp [intersects, empty, meet_zeros]

end

theorem intersects_iff {event : Event} {index : EventIndex} {marked : Summary}
    (hmarked : empty.set event index = .ok marked) (s : Summary)
    : marked.intersects s = true ↔ s.Pending event index := by
  have hbit := event.bit_lt
  unfold set at hmarked
  obtain ⟨_, hcheck, hmarked⟩ := bind_eq_ok_iff.mp hmarked
  unfold EventIndex.check at hcheck
  unfold Pending
  cases hkind : event.kind with
  | global =>
    rw [hkind] at hmarked
    cases hmarked
    rw [intersects_global, empty, UInt64.zero_or, UInt64.and_comm, and_toUInt64_bit_ne_zero _ hbit]
  | partition =>
    rw [hkind] at hmarked hcheck
    cases index with
    | localPartition =>
      cases hmarked
      rw [intersects_localPartition, empty, UInt32.zero_or, UInt32.and_comm, and_bit_ne_zero _ hbit]
    | all =>
      cases hmarked
      rw [intersects_partitions, empty, meet_all hbit]
      simp only [marks_partition hkind]
    | only i =>
      cases hmarked
      dsimp only at hcheck
      split at hcheck
      . next hi =>
        rw [intersects_partitions, empty, meet_only hbit hi]
        exact (marks_partition hkind i).symm
      . cases hcheck
  | function =>
    rw [hkind] at hmarked hcheck
    cases index with
    | localPartition => cases hcheck
    | all =>
      cases hmarked
      rw [intersects_functions, empty, meet_all hbit]
      simp only [marks_function hkind]
    | only i =>
      cases hmarked
      dsimp only at hcheck
      split at hcheck
      . next hi =>
        rw [intersects_functions, empty, meet_only hbit hi]
        exact (marks_function hkind i).symm
      . cases hcheck

end Summary
end PcieSwitch
