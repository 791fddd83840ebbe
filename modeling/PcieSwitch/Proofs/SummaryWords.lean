import PcieSwitch.Proofs.EventBits
import PcieSwitch.Proofs.EventWork

/-!
This module contains the words of a summary, and what marking events does to them: a mark sets one bit in the words that
its index reaches and changes nothing else, so that neither order nor repetition matters.
-/

namespace PcieSwitch

structure Mark where
  event : Event
  index : EventIndex
  deriving DecidableEq, Repr

namespace Summary

inductive Word where
  | global
  | localPartition
  | partition (number : Nat)
  | function (number : Nat)
  deriving DecidableEq, Repr

def wordAt? (s : Summary) : Word → Option Nat
  | .global => some s.global.toNat
  | .localPartition => some s.localPartition.toNat
  | .partition i => s.partitions[i]?.map UInt32.toNat
  | .function i => s.functions[i]?.map UInt32.toNat

def Has (s : Summary) (word : Word) (bit : Nat) : Prop :=
  ∃ n, s.wordAt? word = some n ∧ n.testBit bit = true

structure SameShape (s t : Summary) : Prop where
  bitmap : t.partitionBitmap = s.partitionBitmap
  partitions : t.partitions.length = s.partitions.length
  functions : t.functions.length = s.functions.length

theorem SameShape.refl (s : Summary) : s.SameShape s := ⟨rfl, rfl, rfl⟩

theorem SameShape.symm {s t : Summary} (h : s.SameShape t) : t.SameShape s :=
  ⟨h.bitmap.symm, h.partitions.symm, h.functions.symm⟩

theorem SameShape.trans {s t u : Summary} (h : s.SameShape t) (h' : t.SameShape u) : s.SameShape u :=
  ⟨h'.bitmap.trans h.bitmap, h'.partitions.trans h.partitions, h'.functions.trans h.functions⟩

def setEach (s : Summary) : List Mark → List (Except Error Unit) × Summary
  | [] => ([], s)
  | m :: marks =>
    match s.set m.event m.index with
    | .ok marked =>
      let (outcomes, last) := marked.setEach marks
      (.ok () :: outcomes, last)
    | .error e =>
      let (outcomes, last) := s.setEach marks
      (.error e :: outcomes, last)

end Summary

namespace Mark

def Accepted (m : Mark) : Prop :=
  EventIndex.check m.event m.index = .ok ()

instance (m : Mark) : Decidable m.Accepted :=
  inferInstanceAs (Decidable (EventIndex.check m.event m.index = .ok ()))

def reaches (m : Mark) (word : Summary.Word) : Bool :=
  match m.event.kind, m.index, word with
  | .global, _, .global => true
  | .partition, .localPartition, .localPartition => true
  | .partition, .all, .partition _ => true
  | .partition, .only i, .partition j => i == j
  | .function, .all, .function _ => true
  | .function, .only i, .function j => i == j
  | _, _, _ => false

def Sets (m : Mark) (word : Summary.Word) (bit : Nat) : Prop :=
  m.Accepted ∧ m.reaches word = true ∧ m.event.bit = bit

end Mark

theorem toNat_or_bit (word : UInt32) {bit : Nat} (h : bit < 32)
    : (word ||| 1 <<< UInt32.ofNat bit).toNat = word.toNat ||| 2 ^ bit := by
  rw [UInt32.toNat_or, toNat_bit h]

theorem toNat_or_toUInt64_bit (word : UInt64) {bit : Nat} (h : bit < 32)
    : (word ||| ((1 : UInt32) <<< UInt32.ofNat bit).toUInt64).toNat = word.toNat ||| 2 ^ bit := by
  rw [UInt64.toNat_or, UInt32.toNat_toUInt64, toNat_bit h]

theorem getElem?_map_or_bit (words : List UInt32) {bit : Nat} (h : bit < 32) (j : Nat)
    : ((words.map (· ||| 1 <<< UInt32.ofNat bit))[j]?).map UInt32.toNat
        =
      (words[j]?.map UInt32.toNat).map fun n => if true then n ||| 2 ^ bit else n := by
  rw [List.getElem?_map, Option.map_map, Option.map_map]
  congr 1
  funext word
  exact toNat_or_bit word h

theorem getElem?_modify_or_bit (words : List UInt32) {bit : Nat} (h : bit < 32) (i j : Nat)
    : ((words.modify i (· ||| 1 <<< UInt32.ofNat bit))[j]?).map UInt32.toNat
        =
      (words[j]?.map UInt32.toNat).map fun n => if i == j then n ||| 2 ^ bit else n := by
  rw [List.getElem?_modify, Option.map_eq_map, Option.map_map, Option.map_map]
  congr 1
  funext word
  by_cases hij : i = j
  . rw [Function.comp, if_pos hij, Function.comp, if_pos (beq_iff_eq.mpr hij), toNat_or_bit word h]
  . rw [Function.comp, if_neg hij, Function.comp, if_neg (fun heq => hij (beq_iff_eq.mp heq))]

namespace Summary

theorem wordAt?_set {s marked : Summary} {m : Mark} (h : s.set m.event m.index = .ok marked) (word : Word)
    : marked.wordAt? word = (s.wordAt? word).map fun n => if m.reaches word then n ||| 2 ^ m.event.bit else n := by
  have hbit := m.event.bit_lt
  obtain ⟨event, index⟩ := m
  unfold set at h
  obtain ⟨_, hcheck, h⟩ := bind_eq_ok_iff.mp h
  unfold EventIndex.check at hcheck
  unfold Mark.reaches
  dsimp only at hcheck h hbit ⊢
  cases hkind : event.kind with
  | global =>
    rw [hkind] at h
    cases h
    cases word with
    | global => exact congrArg some (toNat_or_toUInt64_bit s.global hbit)
    | _ => exact Option.map_id'.symm
  | partition =>
    rw [hkind] at h hcheck
    cases index with
    | localPartition =>
      cases h
      cases word with
      | localPartition => exact congrArg some (toNat_or_bit s.localPartition hbit)
      | _ => exact Option.map_id'.symm
    | all =>
      cases h
      cases word with
      | partition j => exact getElem?_map_or_bit s.partitions hbit j
      | _ => exact Option.map_id'.symm
    | only i =>
      cases h
      cases word with
      | partition j => exact getElem?_modify_or_bit s.partitions hbit i j
      | _ => exact Option.map_id'.symm
  | function =>
    rw [hkind] at h hcheck
    cases index with
    | localPartition => cases hcheck
    | all =>
      cases h
      cases word with
      | function j => exact getElem?_map_or_bit s.functions hbit j
      | _ => exact Option.map_id'.symm
    | only i =>
      cases h
      cases word with
      | function j => exact getElem?_modify_or_bit s.functions hbit i j
      | _ => exact Option.map_id'.symm

theorem sameShape_set {s marked : Summary} {m : Mark} (h : s.set m.event m.index = .ok marked)
    : s.SameShape marked := by
  unfold set at h
  obtain ⟨_, _, h⟩ := bind_eq_ok_iff.mp h
  dsimp only at h
  split at h <;> cases h
  . exact ⟨rfl, rfl, rfl⟩
  . exact ⟨rfl, rfl, rfl⟩
  . exact ⟨rfl, List.length_map .., rfl⟩
  . exact ⟨rfl, List.length_modify .., rfl⟩
  . exact ⟨rfl, rfl, List.length_map ..⟩
  . exact ⟨rfl, rfl, List.length_modify ..⟩
  . exact ⟨rfl, rfl, rfl⟩

theorem eq_of_wordAt? {s t : Summary} (hshape : s.SameShape t) (h : ∀ word, t.wordAt? word = s.wordAt? word)
    : t = s := by
  have hlist : ∀ {ws vs : List UInt32}, (∀ i : Nat, vs[i]?.map UInt32.toNat = ws[i]?.map UInt32.toNat) → vs = ws := by
    intro ws vs heq
    apply List.ext_getElem?
    intro i
    exact Option.map_injective (fun _ _ => UInt32.toNat.inj) (heq i)
  obtain ⟨global, bitmap, localPartition, partitions, functions⟩ := s
  obtain ⟨global', bitmap', localPartition', partitions', functions'⟩ := t
  rw [Summary.mk.injEq]
  refine ⟨?_, hshape.bitmap, ?_, ?_, ?_⟩
  . exact UInt64.toNat.inj (Option.some.inj (h .global))
  . exact UInt32.toNat.inj (Option.some.inj (h .localPartition))
  . exact hlist fun i => h (.partition i)
  . exact hlist fun i => h (.function i)

theorem SameShape.isSome_wordAt? {s t : Summary} (h : s.SameShape t) (word : Word)
    : (t.wordAt? word).isSome = (s.wordAt? word).isSome := by
  rw [Bool.eq_iff_iff]
  cases word with
  | partition i => simp only [wordAt?, Option.isSome_map, isSome_getElem?, h.partitions]
  | function i => simp only [wordAt?, Option.isSome_map, isSome_getElem?, h.functions]
  | _ => rfl

theorem wordAt?_eq_of_has_iff {s t : Summary} (hshape : s.SameShape t) {word : Word}
    (h : ∀ bit, t.Has word bit ↔ s.Has word bit) : t.wordAt? word = s.wordAt? word := by
  have hsome := hshape.isSome_wordAt? word
  unfold Has at h
  cases hs : s.wordAt? word with
  | none =>
    rw [hs, Option.isSome_none, Option.isSome_eq_false_iff, Option.isNone_iff_eq_none] at hsome
    exact hsome
  | some n =>
    rw [hs, Option.isSome_some, Option.isSome_iff_exists] at hsome
    obtain ⟨k, hk⟩ := hsome
    rw [hk, hs] at h
    rw [hk, Option.some.injEq]
    apply Nat.eq_of_testBit_eq
    intro bit
    rw [Bool.eq_iff_iff]
    simpa only [Option.some.injEq, exists_eq_left'] using h bit

theorem has_set {s marked : Summary} {m : Mark} (h : s.set m.event m.index = .ok marked) {word : Word} {bit : Nat}
    : marked.Has word bit ↔ s.Has word bit ∨ (s.wordAt? word).isSome ∧ m.reaches word = true ∧ m.event.bit = bit := by
  unfold Has
  rw [wordAt?_set h]
  cases s.wordAt? word with
  | none => simp
  | some n => cases m.reaches word <;> simp [Nat.testBit_two_pow]

theorem map_set (s : Summary) (m : Mark)
    : (s.set m.event m.index).map (fun _ => ()) = EventIndex.check m.event m.index := by
  rw [checkIndex_eq]
  cases hrefused : refuseIndex m.event m.index with
  | none =>
    obtain ⟨marked, hmarked⟩ := set_of_accepted hrefused (s := s)
    rw [hmarked]
    rfl
  | some e =>
    rw [set_of_refused hrefused]
    rfl

theorem accepted_of_set {s marked : Summary} {m : Mark} (h : s.set m.event m.index = .ok marked) : m.Accepted := by
  rw [Mark.Accepted, ← map_set s, h]
  rfl

theorem not_accepted_of_set {s : Summary} {m : Mark} {e : Error} (h : s.set m.event m.index = .error e)
    : ¬ m.Accepted := by
  rw [Mark.Accepted, ← map_set s, h]
  exact nofun

theorem fst_setEach (s : Summary) (marks : List Mark)
    : (s.setEach marks).1 = marks.map fun m => EventIndex.check m.event m.index := by
  fun_induction setEach s marks with
  | case1 => rfl
  | case2 s m marks marked hmarked outcomes last hrun ih =>
    rw [List.map_cons, ← map_set s, hmarked, ← ih, hrun]
    rfl
  | case3 s m marks e hrefused outcomes last hrun ih =>
    rw [List.map_cons, ← map_set s, hrefused, ← ih, hrun]
    rfl

theorem sameShape_setEach (s : Summary) (marks : List Mark) : s.SameShape (s.setEach marks).2 := by
  fun_induction setEach s marks with
  | case1 => exact SameShape.refl _
  | case2 s m marks marked hmarked outcomes last hrun ih =>
    rw [hrun] at ih
    exact (sameShape_set hmarked).trans ih
  | case3 s m marks e hrefused outcomes last hrun ih =>
    rw [hrun] at ih
    exact ih

theorem has_setEach (s : Summary) (marks : List Mark) (word : Word) (bit : Nat)
    : (s.setEach marks).2.Has word bit
        ↔
      s.Has word bit ∨ (s.wordAt? word).isSome ∧ ∃ m ∈ marks, m.Sets word bit := by
  fun_induction setEach s marks with
  | case1 => simp
  | case2 s m marks marked hmarked outcomes last hrun ih =>
    rw [hrun, has_set hmarked, (sameShape_set hmarked).isSome_wordAt?] at ih
    have haccepted := accepted_of_set hmarked
    simp only [List.mem_cons, exists_eq_or_imp, Mark.Sets, haccepted, true_and] at ih ⊢
    rw [ih, or_assoc, and_or_left]
  | case3 s m marks e hrefused outcomes last hrun ih =>
    rw [hrun] at ih
    have hrefused := not_accepted_of_set hrefused
    simp only [List.mem_cons, exists_eq_or_imp, Mark.Sets, hrefused, false_and, false_or] at ih ⊢
    exact ih

theorem setEach_append (s : Summary) (marks others : List Mark)
    : (s.setEach (marks ++ others)).2 = ((s.setEach marks).2.setEach others).2 := by
  fun_induction setEach s marks with
  | case1 => rfl
  | case2 s m marks marked hmarked outcomes last hrun ih =>
    rw [hrun] at ih
    rw [List.cons_append, setEach, hmarked]
    exact ih
  | case3 s m marks e hrefused outcomes last hrun ih =>
    rw [hrun] at ih
    rw [List.cons_append, setEach, hrefused]
    exact ih

theorem setEach_congr (s : Summary) {marks others : List Mark} (h : ∀ m : Mark, m.Accepted → (m ∈ others ↔ m ∈ marks))
    : (s.setEach others).2 = (s.setEach marks).2 := by
  have hshape := sameShape_setEach s marks
  have hothers := sameShape_setEach s others
  have hsame : (s.setEach marks).2.SameShape (s.setEach others).2 := hshape.symm.trans hothers
  -- word by word and bit by bit: a bit is set that was set or that some accepted mark sets
  apply eq_of_wordAt? hsame
  intro word
  apply wordAt?_eq_of_has_iff hsame
  intro bit
  have hsets : (∃ m ∈ others, m.Sets word bit) ↔ ∃ m ∈ marks, m.Sets word bit :=
    exists_congr fun m => and_congr_left fun hset => h m hset.1
  rw [has_setEach, has_setEach, hsets]

theorem wordAt?_setEach_of_not_reaches (s : Summary) {marks : List Mark} {word : Word}
    (h : ∀ m ∈ marks, m.Accepted → m.reaches word = false) : (s.setEach marks).2.wordAt? word = s.wordAt? word := by
  apply wordAt?_eq_of_has_iff (sameShape_setEach s marks)
  intro bit
  rw [has_setEach, or_iff_left_iff_imp]
  rintro ⟨_, m, hm, haccepted, hreaches, _⟩
  rw [h m hm haccepted] at hreaches
  cases hreaches

end Summary
end PcieSwitch
