import Mathlib.Data.List.Pairwise
import Mathlib.Data.List.Perm.Subperm
import Mathlib.Tactic.Choose
import PcieSwitch.CommandLine.Values
import PcieSwitch.Proofs.KindMasks
import PcieSwitch.Proofs.WrittenText
import PcieSwitch.Report.Masks

/-!
This module contains the names that a mask of counted kinds is shown by. They are as few as can be, they cover every bit
that has a name, and reading them in any case of their letters gives these bits again.
-/

namespace PcieSwitch
namespace CountedKind

theorem takeFirst?_eq_none {mask : UInt32} (h : ∀ k ∈ table, ¬ mask &&& k.mask = k.mask) : takeFirst? mask = none := by
  unfold takeFirst?
  rw [Option.map_eq_none_iff, List.find?_eq_none]
  intro k hk
  rw [beq_iff_eq]
  exact h k hk

theorem takeFirst?_eq_some {before after : List CountedKind} {k : CountedKind} (htable : before ++ k :: after = table)
    {mask : UInt32} (hbefore : ∀ other ∈ before, ¬ mask &&& other.mask = other.mask) (hk : mask &&& k.mask = k.mask)
    : takeFirst? mask = some (k, mask &&& ~~~k.mask) := by
  have hfind : (table.find? fun k => mask &&& k.mask == k.mask) = some k := by
    rw [List.find?_eq_some_iff_append, beq_iff_eq]
    refine ⟨hk, before, after, htable.symm, ?_⟩
    intro other hother
    rw [Bool.not_eq_true', beq_eq_false_iff_ne]
    exact hbefore other hother
  unfold takeFirst?
  rw [hfind, Option.map_some]

theorem union_cons (k : CountedKind) (kinds : List CountedKind) : union (k :: kinds) = k.mask ||| union kinds := by
  rw [← maskBits_inj]
  ext i
  rw [maskBits_or, Set.mem_union, mem_maskBits_union, mem_maskBits_union]
  simp

theorem takes_pick {before after : List CountedKind} (htable : before ++ after = table) {mask : UInt32}
    (hbefore : ∀ k ∈ before, ¬ mask &&& k.mask = k.mask)
    : Takes mask (pick after mask) (mask &&& ~~~union (pick after mask)) := by
  fun_induction pick after mask generalizing before with
  | case1 mask =>
    rw [List.append_nil] at htable
    have hrest : mask &&& ~~~union [] = mask := by simp [union]
    rw [hrest]
    apply Takes.stop
    apply takeFirst?_eq_none
    rw [← htable]
    exact hbefore
  | case2 k after mask hk ih =>
    have hleft : ∀ other ∈ before ++ [k], ¬ (mask &&& ~~~k.mask) &&& other.mask = other.mask := by
      simp only [and_eq_right_iff_subset, maskBits_and_not, Set.subset_sdiff] at hbefore ⊢
      intro other hother
      rcases List.mem_append.mp hother with hpassed | hself
      . exact fun h => hbefore other hpassed h.1
      . rw [List.mem_singleton.mp hself]
        have hk : k ∈ table := htable ▸ List.mem_append_right before List.mem_cons_self
        exact fun h => (nonempty_of_mem_table hk).ne_empty (disjoint_self.mp h.2)
    have hrest : mask &&& ~~~union (k :: pick after (mask &&& ~~~k.mask))
        = (mask &&& ~~~k.mask) &&& ~~~union (pick after (mask &&& ~~~k.mask)) := by
      rw [union_cons, ← maskBits_inj]
      simp only [maskBits_and_not, maskBits_or, Set.sdiff_sdiff]
    rw [hrest]
    have htake := takeFirst?_eq_some htable hbefore hk
    rw [List.append_cons] at htable
    exact Takes.take htake (ih htable hleft)
  | case3 k after mask hk ih =>
    rw [List.append_cons] at htable
    apply ih htable
    intro other hother
    rcases List.mem_append.mp hother with hbefore' | hself
    . exact hbefore other hbefore'
    . rw [List.mem_singleton.mp hself]
      exact hk

theorem takes_table (mask : UInt32) : Takes mask (pick table mask) (mask &&& ~~~union (pick table mask)) :=
  takes_pick (List.nil_append table) (List.forall_mem_nil _)

theorem ofMask_eq_pick (mask : UInt32) : ofMask mask = pick table mask := by
  apply ofMask_go_of_takes (takes_table mask)
  have hlength : table.length ≤ 32 := by decide
  exact Nat.le_trans (pick_sublist table mask).length_le hlength

theorem exists_superset {mask : UInt32} {k : CountedKind} (hk : k ∈ table) (hmask : maskBits k.mask ⊆ maskBits mask)
    : ∃ taken ∈ ofMask mask, maskBits k.mask ⊆ maskBits taken.mask := by
  rw [ofMask_eq_pick]
  exact exists_superset_of_subset table_precedes hk hmask

theorem union_ofMask (mask : UInt32) : union (ofMask mask) = mask &&& allMask := by
  rw [← maskBits_inj]
  ext i
  rw [mem_maskBits_union, maskBits_and, Set.mem_inter_iff]
  constructor
  . rintro ⟨k, hk, hi⟩
    rw [ofMask_eq_pick] at hk
    exact ⟨subset_of_mem_pick k hk hi, subset_allMask ((pick_sublist table mask).subset hk) hi⟩
  . rintro ⟨hmask, hall⟩
    obtain ⟨k, hk, hbits⟩ := exists_single hall
    have hsubset : maskBits k.mask ⊆ maskBits mask := by
      rw [hbits, Set.singleton_subset_iff]
      exact hmask
    obtain ⟨taken, htaken, hpart⟩ := exists_superset hk hsubset
    rw [hbits, Set.singleton_subset_iff] at hpart
    exact ⟨taken, htaken, hpart⟩

theorem apart_ofMask (mask : UInt32) : (ofMask mask).Pairwise Apart := by
  rw [ofMask_eq_pick]
  exact apart_of_pick

theorem ofMask_sublist (mask : UInt32) : (ofMask mask).Sublist table := by
  rw [ofMask_eq_pick]
  exact pick_sublist table mask

/--
Each kind that is taken needs a kind of its own in any list that makes up the same mask: one of its bits is in some kind
of that list, and this one is part of no other kind that is taken.
-/
theorem exists_part {mask : UInt32} {others : List CountedKind} (hothers : ∀ k ∈ others, k ∈ table)
    (hunion : union others = mask &&& allMask) {k : CountedKind} (hk : k ∈ ofMask mask)
    : ∃ part ∈ others, maskBits part.mask ⊆ maskBits k.mask := by
  obtain ⟨i, hi⟩ := nonempty_of_mem_table ((ofMask_sublist mask).subset hk)
  have hcovered : i ∈ maskBits (union others) := by
    rw [hunion, ← union_ofMask, mem_maskBits_union]
    exact ⟨k, hk, hi⟩
  obtain ⟨part, hpart, hbit⟩ := mem_maskBits_union.mp hcovered
  have hmask : maskBits part.mask ⊆ maskBits mask := by
    intro j hj
    have hj : j ∈ maskBits (union others) := mem_maskBits_union.mpr ⟨part, hpart, hj⟩
    rw [hunion, maskBits_and] at hj
    exact hj.1
  obtain ⟨taken, htaken, hsubset⟩ := exists_superset (hothers part hpart) hmask
  -- the kinds that are taken are apart, so the one that holds the bit is this one
  have hsame : taken = k := by
    by_contra hne
    have hapart := apart_iff.mp ((apart_ofMask mask).forall htaken hk hne)
    exact Set.disjoint_left.mp hapart (hsubset hbit) hi
  rw [hsame] at hsubset
  exact ⟨part, hpart, hsubset⟩

theorem length_ofMask_le {mask : UInt32} {others : List CountedKind} (hothers : ∀ k ∈ others, k ∈ table)
    (hunion : union others = mask &&& allMask) : (ofMask mask).length ≤ others.length := by
  have hparts : ∀ k, ∃ part, k ∈ ofMask mask → part ∈ others ∧ maskBits part.mask ⊆ maskBits k.mask := by
    intro k
    by_cases hk : k ∈ ofMask mask
    . obtain ⟨part, hpart⟩ := exists_part hothers hunion hk
      exact ⟨part, fun _ => hpart⟩
    . exact ⟨k, fun h => absurd h hk⟩
  choose part hpart using hparts
  have hnodup : ((ofMask mask).map part).Nodup := by
    rw [List.Nodup, List.pairwise_map]
    apply (apart_ofMask mask).imp_of_mem
    intro k other hk hother hapart hsame
    obtain ⟨i, hi⟩ := nonempty_of_mem_table (hothers _ (hpart k hk).1)
    refine Set.disjoint_left.mp (apart_iff.mp hapart) ((hpart k hk).2 hi) ((hpart other hother).2 ?_)
    rw [← hsame]
    exact hi
  have hsubset : (ofMask mask).map part ⊆ others := by
    intro other hother
    obtain ⟨k, hk, rfl⟩ := List.mem_map.mp hother
    exact (hpart k hk).1
  rw [← List.length_map part]
  exact (hnodup.subperm hsubset).length_le

theorem takes_ofMask (mask : UInt32) : Takes mask (ofMask mask) (mask &&& ~~~allMask) := by
  have hrest : mask &&& ~~~union (ofMask mask) = mask &&& ~~~allMask := by
    rw [union_ofMask, ← maskBits_inj, maskBits_and_not, maskBits_and_not, maskBits_and, Set.sdiff_self_inter]
  rw [← hrest, ofMask_eq_pick]
  exact takes_table mask

theorem ofName?_name : ∀ k ∈ table, ofName? k.name = some k := by
  decide +kernel

theorem mapM_ofName? {kinds : List CountedKind} (hkinds : ∀ k ∈ kinds, k ∈ table)
    : (kinds.map name).mapM ofName? = some kinds := by
  induction kinds with
  | nil => rfl
  | cons k kinds ih =>
    obtain ⟨hk, hrest⟩ := List.forall_mem_cons.mp hkinds
    rw [List.map_cons, List.mapM_cons, ofName?_name k hk, ih hrest]
    rfl

theorem ofName?_of_eqIgnoreCase {k : CountedKind} (hk : k ∈ table) {name : String}
    (hname : Text.eqIgnoreCase name k.name = true) : ofName? name = some k := by
  have hlowered : Text.lowered name = Text.lowered k.name := beq_iff_eq.mp hname
  rw [← ofName?_name k hk]
  unfold ofName? Text.eqIgnoreCase
  rw [hlowered]

theorem comma_not_mem_name : ∀ k ∈ table, ',' ∉ k.name.toList := by
  decide

theorem splitAtEach_typeMask {mask : UInt32} (hmask : mask &&& allMask ≠ 0)
    : Text.splitAtEach ',' (Report.typeMask mask).toList = (ofMask mask).map fun k => k.name.toList := by
  have hkinds : ofMask mask ≠ [] := by
    intro hnil
    have hunion := union_ofMask mask
    rw [hnil] at hunion
    exact hmask hunion.symm
  unfold Report.typeMask namesOf
  rw [String.toList_intercalate, List.map_map]
  apply Text.splitAtEach_intercalate
  . rw [ne_eq, List.map_eq_nil_iff]
    exact hkinds
  . intro piece hpiece
    obtain ⟨k, hk, rfl⟩ := List.mem_map.mp hpiece
    exact comma_not_mem_name k ((ofMask_sublist mask).subset hk)

theorem mapM_parseKind {kinds : List CountedKind} (hkinds : ∀ k ∈ kinds, k ∈ table) {names : List String}
    (hnames : List.Forall₂ (fun name piece => Text.eqIgnoreCase name (String.ofList piece) = true) names
      (kinds.map fun k => k.name.toList))
    : names.mapM Value.parseKind = .ok (kinds.map mask) := by
  induction kinds generalizing names with
  | nil =>
    cases hnames
    rfl
  | cons k kinds ih =>
    obtain ⟨hk, hrest⟩ := List.forall_mem_cons.mp hkinds
    cases hnames with
    | @cons name _ names _ hname hnames =>
      rw [String.ofList_toList] at hname
      have hparse : Value.parseKind name = .ok k.mask := by
        unfold Value.parseKind
        rw [ofName?_of_eqIgnoreCase hk hname]
      rw [List.mapM_cons, hparse, ih hrest hnames]
      rfl

/--
Some kinds name a mask: they are what taking the first kind again and again comes to, which leaves the bits without a
name, they stand as in the table, no bit is named twice and none is missed, and no fewer kinds make up the same bits.
-/
structure Naming (mask : UInt32) (kinds : List CountedKind) : Prop where
  taken : Takes mask kinds (mask &&& ~~~allMask)
  inOrder : kinds.Sublist table
  apart : kinds.Pairwise fun k other => k.mask &&& other.mask = 0
  whole : union kinds = mask &&& allMask
  fewest : ∀ others, (∀ k ∈ others, k ∈ table) → union others = mask &&& allMask → kinds.length ≤ others.length

/--
A mask is named by its kinds, and their names lead back to them. Where a bit has a name, the text of the mask is read
piece by piece, in any case of its letters, and gives all the bits that have names.
-/
theorem mask_is_read_back_from_names (mask : UInt32)
    : Naming mask (ofMask mask)
        ∧
      namesOf mask = (ofMask mask).map name
        ∧
      (namesOf mask).mapM ofName? = some (ofMask mask)
        ∧
      (mask &&& allMask ≠ 0 → ∀ names : List String,
        List.Forall₂ (fun name piece => Text.eqIgnoreCase name (String.ofList piece) = true) names
            (Text.splitAtEach ',' (Report.typeMask mask).toList) →
          ∃ masks, names.mapM Value.parseKind = .ok masks ∧ masks.foldl (· ||| ·) 0 = mask &&& allMask) := by
  have htable : ∀ k ∈ ofMask mask, k ∈ table := fun _ hk => (ofMask_sublist mask).subset hk
  refine ⟨?_, rfl, mapM_ofName? htable, ?_⟩
  . exact {
      taken := takes_ofMask mask
      inOrder := ofMask_sublist mask
      apart := apart_ofMask mask
      whole := union_ofMask mask
      fewest := fun _ => length_ofMask_le
    }
  . intro hmask names hnames
    rw [splitAtEach_typeMask hmask] at hnames
    exact ⟨_, mapM_parseKind htable hnames, union_ofMask mask⟩

/--
Two bits of this mask have no name, and all kinds of packets have one in common. Six kinds make up the same bits as the
four that name it.
-/
theorem names_of_a_mixed_mask
    : let mask : UInt32 := 0x80F80003
      let names := ["all_tlps", "Unsup_Req_Err", "ECRC_ERR", "rule_table_hit"]
      let others := table.filter fun k => [0x1, 0x2, 0x80000, 0x100000, 0x200000, 0x400000].contains k.mask
      namesOf mask = ["ALL_TLPS", "UNSUP_REQ_ERR", "ECRC_ERR", "RULE_TABLE_HIT"]
        ∧
      Takes mask (ofMask mask) 0x80800000
        ∧
      (others.length = 6 ∧ (∀ k ∈ others, k ∈ table) ∧ union others = mask &&& allMask)
        ∧
      (ofMask mask).length ≤ others.length
        ∧
      mask &&& allMask ≠ 0
        ∧
      List.Forall₂ (fun name piece => Text.eqIgnoreCase name (String.ofList piece) = true) names
        (Text.splitAtEach ',' (Report.typeMask mask).toList)
        ∧
      ∃ masks, names.mapM Value.parseKind = .ok masks ∧ masks.foldl (· ||| ·) 0 = 0x780003 := by
  intro mask names others
  obtain ⟨hnaming, _, _, hread⟩ := mask_is_read_back_from_names mask
  have hothers : ∀ k ∈ others, k ∈ table := fun _ => List.mem_of_mem_filter
  have hunion : union others = mask &&& allMask := by
    decide +kernel
  have hleft : mask &&& ~~~allMask = 0x80800000 := by
    decide
  have hnamed : mask &&& allMask = 0x780003 := by
    decide
  have hmask : mask &&& allMask ≠ 0 := by
    decide
  have hnames : List.Forall₂ (fun name piece => Text.eqIgnoreCase name (String.ofList piece) = true) names
      (Text.splitAtEach ',' (Report.typeMask mask).toList) := by
    decide +kernel
  rw [← hleft, ← hnamed]
  refine ⟨?_, hnaming.taken, ⟨?_, hothers, hunion⟩, hnaming.fewest others hothers hunion, hmask, hnames, ?_⟩
  . decide +kernel
  . decide +kernel
  . exact hread hmask names hnames

end CountedKind
end PcieSwitch
