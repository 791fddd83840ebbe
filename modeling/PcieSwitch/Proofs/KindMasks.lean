import Mathlib.Algebra.Group.Nat.Defs
import Mathlib.Data.Set.Lattice
import Mathlib.Order.CompletePartialOrder
import PcieSwitch.Counter.Kind

/-!
This module contains the masks of counted kinds as sets of bits, and what taking kinds off a mask comes to. The groups
of the table stand before their parts, so one pass over the table takes every kind that is not part of another one taken.
-/

namespace PcieSwitch

def maskBits (mask : UInt32) : Set Nat :=
  { i | mask.toNat.testBit i = true }

theorem maskBits_inj {mask other : UInt32} : maskBits mask = maskBits other ↔ mask = other := by
  constructor
  . intro h
    apply UInt32.toNat.inj
    apply Nat.eq_of_testBit_eq
    intro i
    rw [Bool.eq_iff_iff]
    exact Set.ext_iff.mp h i
  . rintro rfl
    rfl

@[simp]
theorem maskBits_zero : maskBits 0 = ∅ := by
  ext i
  simp [maskBits]

@[simp]
theorem maskBits_and (mask other : UInt32) : maskBits (mask &&& other) = maskBits mask ∩ maskBits other := by
  ext i
  simp [maskBits]

@[simp]
theorem maskBits_or (mask other : UInt32) : maskBits (mask ||| other) = maskBits mask ∪ maskBits other := by
  ext i
  simp [maskBits]

theorem maskBits_and_not (mask other : UInt32)
    : maskBits (mask &&& ~~~other) = maskBits mask \ maskBits other := by
  ext i
  have hnot : (~~~other).toNat.testBit i = (decide (i < 32) && !other.toNat.testBit i) := BitVec.getLsbD_not
  have hlt : mask.toNat.testBit i = true → i < 32 := BitVec.lt_of_getLsbD
  unfold maskBits
  rw [Set.mem_sdiff, Set.mem_ofPred_eq, Set.mem_ofPred_eq, Set.mem_ofPred_eq, UInt32.toNat_and, Nat.testBit_and, hnot]
  cases hmask : mask.toNat.testBit i with
  | false => simp
  | true => simp [hlt hmask]

theorem and_eq_right_iff_subset {mask other : UInt32}
    : mask &&& other = other ↔ maskBits other ⊆ maskBits mask := by
  rw [← maskBits_inj, maskBits_and, Set.inter_eq_right]

namespace CountedKind

def union (kinds : List CountedKind) : UInt32 :=
  (kinds.map mask).foldl (· ||| ·) 0

theorem mem_maskBits_foldl {masks : List UInt32} {start : UInt32} {i : Nat}
    : i ∈ maskBits (masks.foldl (· ||| ·) start) ↔ i ∈ maskBits start ∨ ∃ mask ∈ masks, i ∈ maskBits mask := by
  induction masks generalizing start with
  | nil => simp
  | cons mask masks ih => simp [ih, or_assoc]

theorem mem_maskBits_union {kinds : List CountedKind} {i : Nat}
    : i ∈ maskBits (union kinds) ↔ ∃ k ∈ kinds, i ∈ maskBits k.mask := by
  unfold union
  rw [mem_maskBits_foldl]
  simp

def Apart (k other : CountedKind) : Prop :=
  k.mask &&& other.mask = 0

instance (k other : CountedKind) : Decidable (Apart k other) :=
  inferInstanceAs (Decidable (_ = _))

theorem apart_iff {k other : CountedKind} : Apart k other ↔ Disjoint (maskBits k.mask) (maskBits other.mask) := by
  unfold Apart
  rw [← maskBits_inj, maskBits_and, maskBits_zero, Set.disjoint_iff_inter_eq_empty]

instance : Std.Symm Apart where
  symm k other h := by
    rw [apart_iff] at h ⊢
    exact h.symm

/--
Take the first kind that lies in what is left of a mask, again and again, until none does: the kinds that are taken, and
what is left then.
-/
inductive Takes : UInt32 → List CountedKind → UInt32 → Prop where
  | stop {mask : UInt32} (hnone : takeFirst? mask = none) : Takes mask [] mask
  | take {mask left rest : UInt32} {k : CountedKind} {kinds : List CountedKind}
    (htake : takeFirst? mask = some (k, left)) (hrest : Takes left kinds rest) : Takes mask (k :: kinds) rest

/--
Each kind that is taken is a step, so a mask is named in full within as many steps as there are kinds to take.
-/
theorem ofMask_go_of_takes {mask rest : UInt32} {kinds : List CountedKind} (h : Takes mask kinds rest) {fuel : Nat}
    (hfuel : kinds.length ≤ fuel) : ofMask.go fuel mask = kinds := by
  induction h generalizing fuel with
  | stop hnone =>
    cases fuel with
    | zero => rfl
    | succ fuel => rw [ofMask.go, hnone]
  | take htake _ ih =>
    cases fuel with
    | zero => cases hfuel
    | succ fuel =>
      rw [ofMask.go, htake]
      dsimp only
      rw [ih (Nat.le_of_succ_le_succ hfuel)]

def pick : List CountedKind → UInt32 → List CountedKind
  | [], _ => []
  | k :: kinds, mask =>
    if mask &&& k.mask = k.mask then k :: pick kinds (mask &&& ~~~k.mask) else pick kinds mask

theorem pick_sublist (kinds : List CountedKind) (mask : UInt32) : (pick kinds mask).Sublist kinds := by
  fun_induction pick kinds mask with
  | case1 => exact List.Sublist.refl _
  | case2 k kinds mask _ ih => exact ih.cons_cons k
  | case3 k kinds mask _ ih => exact ih.cons k

theorem subset_of_mem_pick {kinds : List CountedKind} {mask : UInt32}
    : ∀ k ∈ pick kinds mask, maskBits k.mask ⊆ maskBits mask := by
  fun_induction pick kinds mask with
  | case1 => exact List.forall_mem_nil _
  | case2 k kinds mask hk ih =>
    rw [List.forall_mem_cons]
    refine ⟨and_eq_right_iff_subset.mp hk, ?_⟩
    intro other hother
    have hleft := ih other hother
    rw [maskBits_and_not] at hleft
    exact hleft.trans Set.sdiff_subset
  | case3 k kinds mask _ ih => exact ih

theorem apart_of_pick {kinds : List CountedKind} {mask : UInt32} : (pick kinds mask).Pairwise Apart := by
  fun_induction pick kinds mask with
  | case1 => exact List.Pairwise.nil
  | case2 k kinds mask _ ih =>
    refine List.Pairwise.cons ?_ ih
    intro other hother
    have hleft := subset_of_mem_pick other hother
    rw [maskBits_and_not] at hleft
    rw [apart_iff]
    exact disjoint_sdiff_self_right.mono_right hleft
  | case3 k kinds mask _ ih => exact ih

def Precedes (k other : CountedKind) : Prop :=
  Apart k other ∨ k.mask &&& other.mask = other.mask

instance (k other : CountedKind) : Decidable (Precedes k other) :=
  inferInstanceAs (Decidable (_ ∨ _))

/--
Every kind that lies in the mask is part of one that is taken, since groups come before their parts.
-/
theorem exists_superset_of_subset {kinds : List CountedKind} (hkinds : kinds.Pairwise Precedes) {mask : UInt32}
    {k : CountedKind} (hk : k ∈ kinds) (hmask : maskBits k.mask ⊆ maskBits mask)
    : ∃ taken ∈ pick kinds mask, maskBits k.mask ⊆ maskBits taken.mask := by
  fun_induction pick kinds mask with
  | case1 => cases hk
  | case2 first kinds mask hfirst ih =>
    obtain ⟨hprecedes, hrest⟩ := List.pairwise_cons.mp hkinds
    rcases List.mem_cons.mp hk with rfl | hk
    . exact ⟨k, List.mem_cons_self, subset_rfl⟩
    . rcases hprecedes k hk with hapart | hpart
      . have hleft : maskBits k.mask ⊆ maskBits (mask &&& ~~~first.mask) := by
          rw [maskBits_and_not]
          exact Set.subset_sdiff.mpr ⟨hmask, (apart_iff.mp hapart).symm⟩
        obtain ⟨taken, htaken, hsubset⟩ := ih hrest hk hleft
        exact ⟨taken, List.mem_cons_of_mem _ htaken, hsubset⟩
      . exact ⟨first, List.mem_cons_self, and_eq_right_iff_subset.mp hpart⟩
  | case3 first kinds mask hfirst ih =>
    rcases List.mem_cons.mp hk with rfl | hk
    . exact absurd (and_eq_right_iff_subset.mpr hmask) hfirst
    . exact ih (List.pairwise_cons.mp hkinds).2 hk hmask

theorem mask_of_mem_table : ∀ k ∈ table, k.mask ≠ 0 ∧ k.mask.toNat < 2 ^ 24 := by
  decide

theorem table_precedes : table.Pairwise Precedes := by
  decide +kernel

theorem nonempty_of_mem_table {k : CountedKind} (hk : k ∈ table) : (maskBits k.mask).Nonempty := by
  rw [Set.nonempty_iff_ne_empty, ← maskBits_zero, ne_eq, maskBits_inj]
  exact (mask_of_mem_table k hk).1

theorem subset_allMask {k : CountedKind} (hk : k ∈ table) : maskBits k.mask ⊆ maskBits allMask := by
  have htable : ∀ k ∈ table, allMask &&& k.mask = k.mask := by
    decide
  exact and_eq_right_iff_subset.mp (htable k hk)

theorem exists_single {i : Nat} (hi : i ∈ maskBits allMask) : ∃ k ∈ table, maskBits k.mask = {i} := by
  have htable : ∀ i < 23, ∃ k ∈ table, k.mask.toNat = 2 ^ i := by
    decide
  have hall : allMask.toNat = 2 ^ 23 - 1 := by
    decide
  unfold maskBits at hi
  rw [Set.mem_ofPred_eq, hall, Nat.testBit_two_pow_sub_one, decide_eq_true_iff] at hi
  obtain ⟨k, hk, hbit⟩ := htable i hi
  refine ⟨k, hk, ?_⟩
  ext j
  unfold maskBits
  rw [Set.mem_ofPred_eq, hbit, Nat.testBit_two_pow, decide_eq_true_iff, Set.mem_singleton_iff, eq_comm]

end CountedKind
end PcieSwitch
