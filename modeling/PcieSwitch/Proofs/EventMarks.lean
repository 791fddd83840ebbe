import Mathlib.Data.List.Lex
import PcieSwitch.Proofs.SummaryWords

/-!
This module contains the pairs of events and numbers that a summary holds: what marking adds to them, what a test asks
of them, and how they are listed.
-/

namespace PcieSwitch

def EventKind.count : EventKind → Nat
  | .global => 1
  | .partition => maxPartitions
  | .function => maxFunctions

def EventKind.rank : EventKind → Nat
  | .global => 0
  | .partition => 1
  | .function => 2

namespace Event

def word (event : Event) (number : Nat) : Summary.Word :=
  match event.kind with
  | .global => .global
  | .partition => .partition number
  | .function => .function number

def key (place : Event × Nat) : List Nat :=
  [place.1.kind.rank, place.2, place.1.bit]

theorem eq_of_kind_of_bit {event other : Event} (hkind : event.kind = other.kind) (hbit : event.bit = other.bit)
    : event = other := by
  have hevent : ofBit? other.kind other.bit = some event := ofBit?_eq_some_iff.mpr ⟨hkind, hbit⟩
  have hother : ofBit? other.kind other.bit = some other := ofBit?_eq_some_iff.mpr ⟨rfl, rfl⟩
  exact Option.some.inj (hevent.symm.trans hother)

end Event

/--
A mark is accepted and is about an event at a number. A global event has no number, and a mark of all of them is one
at each that there can be.
-/
def Mark.Covers (m : Mark) (event : Event) (number : Nat) : Prop :=
  m.Accepted ∧ m.event = event
    ∧ (event.kind = .global ∨ m.index = .only number ∨ m.index = .all ∧ number < event.kind.count)

namespace Summary

structure Full (s : Summary) : Prop where
  partitions : s.partitions.length = maxPartitions
  functions : s.functions.length = maxFunctions

theorem SameShape.full {s t : Summary} (h : s.SameShape t) (hfull : s.Full) : t.Full :=
  ⟨h.partitions.trans hfull.partitions, h.functions.trans hfull.functions⟩

theorem Full.isSome_wordAt? {s : Summary} (h : s.Full) (event : Event) (number : Nat)
    : (s.wordAt? (event.word number)).isSome ↔ event.kind = .global ∨ number < event.kind.count := by
  unfold Event.word
  cases event.kind with
  | global => simp [wordAt?]
  | partition => simp [wordAt?, isSome_getElem?, EventKind.count, h.partitions]
  | function => simp [wordAt?, isSome_getElem?, EventKind.count, h.functions]

theorem full_empty : empty.Full :=
  ⟨List.length_replicate, List.length_replicate⟩

theorem test_eq_true_iff {s : Summary} {event : Event} {number : Nat}
    : s.test event number = true ↔ s.Has (event.word number) event.bit := by
  have hbit := event.bit_lt
  unfold test Has Event.word
  cases event.kind with
  | global =>
    dsimp only
    rw [and_toUInt64_bit_ne_zero _ hbit]
    simp [wordAt?]
  | partition => simp [wordAt?, Option.any_eq_true, and_bit_ne_zero _ hbit]
  | function => simp [wordAt?, Option.any_eq_true, and_bit_ne_zero _ hbit]

theorem Full.test_behind {s : Summary} (h : s.Full) {event : Event} {number : Nat} (hkind : event.kind ≠ .global)
    (hnumber : event.kind.count ≤ number) : s.test event number = false := by
  rw [← Bool.not_eq_true, test_eq_true_iff]
  rintro ⟨n, hn, _⟩
  have hsome := (h.isSome_wordAt? event number).mp (Option.isSome_of_eq_some hn)
  rcases hsome with hglobal | hlt
  . exact hkind hglobal
  . omega

end Summary

namespace Mark

theorem reaches_word (m : Mark) (event : Event) (number : Nat)
    : m.reaches (event.word number) = true
        ↔
      m.event.kind = event.kind ∧ (event.kind = .global ∨ m.index = .only number ∨ m.index = .all) := by
  unfold reaches Event.word
  cases m.event.kind <;> cases event.kind <;> cases m.index <;> simp

theorem not_reaches_localPartition (m : Mark) (h : m.event.kind = .partition → m.index ≠ .localPartition)
    : m.reaches .localPartition = false := by
  unfold reaches
  split <;> simp_all

theorem Accepted.number_lt {m : Mark} {number : Nat} (h : m.Accepted) (hindex : m.index = .only number)
    : m.event.kind = .global ∨ number < m.event.kind.count := by
  unfold Accepted EventIndex.check at h
  rw [hindex] at h
  cases hkind : m.event.kind with
  | global => exact Or.inl rfl
  | partition =>
    rw [hkind] at h
    dsimp only at h
    split at h
    . next hlt => exact Or.inr hlt
    . cases h
  | function =>
    rw [hkind] at h
    dsimp only at h
    split at h
    . next hlt => exact Or.inr hlt
    . cases h

theorem sets_iff_covers {s : Summary} (h : s.Full) (m : Mark) (event : Event) (number : Nat)
    : (s.wordAt? (event.word number)).isSome ∧ m.Sets (event.word number) event.bit ↔ m.Covers event number := by
  rw [h.isSome_wordAt?]
  unfold Sets Covers
  rw [reaches_word]
  constructor
  . rintro ⟨hnumber, haccepted, ⟨hkind, hindex⟩, hbit⟩
    refine ⟨haccepted, Event.eq_of_kind_of_bit hkind hbit, ?_⟩
    tauto
  . rintro ⟨haccepted, rfl, hindex⟩
    have hnumber : m.index = .only number → m.event.kind = .global ∨ number < m.event.kind.count := haccepted.number_lt
    tauto

end Mark

namespace Summary

theorem test_setEach {s : Summary} (h : s.Full) (marks : List Mark) (event : Event) (number : Nat)
    : (s.setEach marks).2.test event number = true
        ↔
      s.test event number = true ∨ ∃ m ∈ marks, m.Covers event number := by
  rw [test_eq_true_iff, test_eq_true_iff, has_setEach]
  constructor
  . rintro (hbefore | ⟨hsome, m, hm, hsets⟩)
    . exact Or.inl hbefore
    . exact Or.inr ⟨m, hm, (m.sets_iff_covers h event number).mp ⟨hsome, hsets⟩⟩
  . rintro (hbefore | ⟨m, hm, hcovers⟩)
    . exact Or.inl hbefore
    . obtain ⟨hsome, hsets⟩ := (m.sets_iff_covers h event number).mpr hcovers
      exact Or.inr ⟨hsome, m, hm, hsets⟩

theorem mem_occurred_iff_test {s : Summary} (h : s.Full) {event : Event} {number : Nat}
    : (event, number) ∈ s.occurred ↔ s.test event number = true ∧ number < event.kind.count := by
  have hlt : ∀ {words : List UInt32} {n : Nat}, words[number]?.map UInt32.toNat = some n → number < words.length := by
    intro words n hn
    obtain ⟨word, hword, _⟩ := Option.map_eq_some_iff.mp hn
    exact (List.getElem?_eq_some_iff.mp hword).1
  rw [mem_occurred, test_eq_true_iff]
  unfold Marks word? Has Event.word
  cases event.kind with
  | global => simp [wordAt?, EventKind.count, List.getElem?_singleton, and_comm]
  | partition =>
    simp only [wordAt?, List.getElem?_map, EventKind.count, ← h.partitions]
    rw [and_iff_left_of_imp]
    rintro ⟨n, hn, _⟩
    exact hlt hn
  | function =>
    simp only [wordAt?, List.getElem?_map, EventKind.count, ← h.functions]
    rw [and_iff_left_of_imp]
    rintro ⟨n, hn, _⟩
    exact hlt hn

theorem pairwise_occurredIn (kind : EventKind) (words : List UInt64)
    : (occurredIn kind words).Pairwise fun a b => Event.key a < Event.key b := by
  unfold occurredIn
  rw [List.pairwise_flatMap]
  constructor
  . rintro ⟨word, i⟩ _
    rw [List.pairwise_map]
    apply (pairwise_eventsOf kind word).imp_of_mem
    intro a b ha hb hlt
    unfold Event.key
    rw [(mem_eventsOf.mp ha).1, (mem_eventsOf.mp hb).1]
    simp only [List.cons_lt_cons_iff, true_and]
    exact Or.inr (Or.inr (Or.inl hlt))
  . have hplaces : (words.zipIdx.map Prod.snd).Pairwise (· < ·) := by
      rw [List.zipIdx_map_snd]
      exact List.pairwise_lt_range'
    rw [List.pairwise_map] at hplaces
    apply hplaces.imp
    rintro ⟨word, i⟩ ⟨other, j⟩ hij x hx y hy
    obtain ⟨a, ha, rfl⟩ := List.mem_map.mp hx
    obtain ⟨b, hb, rfl⟩ := List.mem_map.mp hy
    unfold Event.key
    rw [(mem_eventsOf.mp ha).1, (mem_eventsOf.mp hb).1]
    simp only [List.cons_lt_cons_iff, true_and]
    exact Or.inr (Or.inl hij)

theorem kind_of_mem_occurredIn {kind : EventKind} {words : List UInt64} {place : Event × Nat}
    (h : place ∈ occurredIn kind words) : place.1.kind = kind := by
  obtain ⟨_, _, hkind, _⟩ := mem_occurredIn.mp h
  exact hkind

theorem pairwise_occurred (s : Summary) : s.occurred.Pairwise fun a b => Event.key a < Event.key b := by
  have hkinds : ∀ {kind other : EventKind} {words words' : List UInt64}, kind.rank < other.rank →
      ∀ a ∈ occurredIn kind words, ∀ b ∈ occurredIn other words', Event.key a < Event.key b := by
    intro kind other words words' hrank a ha b hb
    unfold Event.key
    rw [kind_of_mem_occurredIn ha, kind_of_mem_occurredIn hb, List.cons_lt_cons_iff]
    exact Or.inl hrank
  unfold occurred
  rw [List.pairwise_append, List.pairwise_append]
  refine ⟨⟨pairwise_occurredIn .., pairwise_occurredIn .., hkinds (by decide)⟩, pairwise_occurredIn .., ?_⟩
  intro a ha b hb
  rcases List.mem_append.mp ha with hglobal | hpartition
  . exact hkinds (by decide) a hglobal b hb
  . exact hkinds (by decide) a hpartition b hb

structure Marked (s : Summary) (marks : List Mark) (outcomes : List (Except Error Unit)) (last : Summary) : Prop where
  outcomes : outcomes = marks.map fun m => EventIndex.check m.event m.index
  refused : ∀ before m after e, marks = before ++ m :: after →
    (s.setEach before).2.set m.event m.index = .error e → (s.setEach (before ++ [m])).2 = (s.setEach before).2
  test : ∀ event number, last.test event number = true
    ↔ s.test event number = true ∨ ∃ m ∈ marks, m.Covers event number
  bits : ∀ word bit, last.Has word bit ↔ s.Has word bit ∨ (s.wordAt? word).isSome ∧ ∃ m ∈ marks, m.Sets word bit
  localPartition : (∀ m ∈ marks, m.Accepted → m.event.kind = .partition → m.index ≠ .localPartition) →
    last.localPartition = s.localPartition
  shape : s.SameShape last
  any_order : ∀ others : List Mark, (∀ m : Mark, m.Accepted → (m ∈ others ↔ m ∈ marks)) → (s.setEach others).2 = last
  occurred : ∀ event number, (event, number) ∈ last.occurred
    ↔ last.test event number = true ∧ number < event.kind.count
  ordered : last.occurred.Pairwise fun a b => Event.key a < Event.key b

end Summary

/--
Marking, testing and listing are about one set of events at numbers, whatever the words of the summary hold, and every
word is listed to its end.
-/
theorem summary_is_one_set_of_marks {s : Summary} (h : s.Full) (marks : List Mark)
    : s.Marked marks (s.setEach marks).1 (s.setEach marks).2
        ∧
      ∀ word : UInt64, (Scan.bits word).length ≤ 64 ∧ Scan.clearLowest^[(Scan.bits word).length] word = 0 := by
  have hshape := s.sameShape_setEach marks
  refine ⟨?_, fun word => ⟨Scan.length_bits_le word, Scan.clearLowest_iterate word⟩⟩
  constructor
  case outcomes => exact s.fst_setEach marks
  case refused =>
    intro before m after e _ hrefused
    rw [Summary.setEach_append, Summary.setEach, hrefused]
    rfl
  case test => exact Summary.test_setEach h marks
  case bits => exact s.has_setEach marks
  case localPartition =>
    intro hnone
    apply UInt32.toNat.inj
    apply Option.some.inj
    have hlocal : ∀ m ∈ marks, m.Accepted → m.reaches .localPartition = false := by
      intro m hm haccepted
      exact m.not_reaches_localPartition (hnone m hm haccepted)
    exact s.wordAt?_setEach_of_not_reaches hlocal
  case shape => exact hshape
  case any_order => exact fun others hothers => s.setEach_congr hothers
  case occurred => exact fun event number => Summary.mem_occurred_iff_test (hshape.full h)
  case ordered => exact Summary.pairwise_occurred _

theorem unknown_bits_stay_beside_marks
    : let s : Summary := { Summary.empty with global := 0x2001, partitions := 0x80000004 :: List.replicate 47 0 }
      let marks : List Mark := [
        ⟨.partitionReset, .all⟩, ⟨.hotplug, .localPartition⟩, ⟨.linkState, .only 7⟩, ⟨.partitionReset, .only 48⟩
      ]
      s.Full ∧ s.Marked marks (s.setEach marks).1 (s.setEach marks).2 := by
  intro s marks
  have hfull : s.Full := ⟨congrArg (· + 1) List.length_replicate, List.length_replicate⟩
  exact ⟨hfull, (summary_is_one_set_of_marks hfull marks).1⟩

/--
An event that is marked everywhere is not found behind the last partition.
-/
theorem marked_everywhere_is_not_found_behind_the_last
    : ¬ ∀ (s : Summary) (marks : List Mark) (event : Event) (number : Nat), s.Full →
        ((s.setEach marks).2.test event number = true
          ↔ s.test event number = true ∨ ∃ m ∈ marks, m.Accepted ∧ m.event = event
            ∧ (event.kind = .global ∨ m.index = .only number ∨ m.index = .all)) := by
  intro h
  have hfound := (h .empty [⟨.partitionReset, .all⟩] .partitionReset 48 Summary.full_empty).mpr
    (Or.inr ⟨⟨.partitionReset, .all⟩, List.mem_singleton_self _, rfl, rfl, Or.inr (Or.inr rfl)⟩)
  have hfull := (Summary.empty.sameShape_setEach [⟨.partitionReset, .all⟩]).full Summary.full_empty
  rw [hfull.test_behind (by decide) (by decide)] at hfound
  cases hfound

end PcieSwitch
