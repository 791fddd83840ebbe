import PcieSwitch.Proofs.EventAnswers
import PcieSwitch.Proofs.EventBits
import PcieSwitch.Proofs.EventOrder
import PcieSwitch.Simulation.Switch

/-!
This module contains the listing of events: what the driver is asked for each marked event, and what becomes of
its answers.
-/

namespace PcieSwitch
namespace EventQuery

def admits (q : EventQuery) (index : Nat) : Bool :=
  q.index.all (· == index)

def clears (q : EventQuery) (event : Event) : Bool :=
  q.clearAll || q.clear.toNat.testBit event.number

theorem flags_eq (q : EventQuery) (event : Event)
    : q.flags event = if q.clears event then EventFlags.clear else 0 := by
  have hnumber : event.number < 32 := by
    cases event <;> decide
  unfold flags clears Event.mask
  rw [and_bit_ne_zero q.clear hnumber]

theorem any_index_ne (q : EventQuery) (index : Nat) : q.index.any (· ≠ index) = !q.admits index := by
  unfold admits
  cases q.index with
  | none => rfl
  | some i =>
    change decide (i ≠ index) = !(i == index)
    rw [decide_not]
    rfl

end EventQuery

structure Sighting where
  event : Event
  index : Nat
  partition : Option UInt32
  port : Option UInt32
  count : UInt32

namespace Sighting

def pair (x : Sighting) : Event × Nat :=
  (x.event, x.index)

def record (x : Sighting) : EventRecord :=
  ⟨x.partition, x.port, x.event, x.count⟩

def Placed (x : Sighting) : Prop :=
  match x.event.kind with
  | .global => x.partition = none ∧ x.port = none
  | .partition => x.partition = some (UInt32.ofNat x.index) ∧ x.port = none
  | .function => x.partition.isSome ∧ x.port.isSome

def selected (home : UInt8) (q : EventQuery) (x : Sighting) : Bool :=
  q.allPartitions || x.partition = some home.toUInt32

def lookup (x : Sighting) : List (Entry deviceInterface) :=
  match x.event.kind, x.partition, x.port with
  | .function, some partition, some port => [⟨.event (.portOf x.index), .ok (partition, port)⟩]
  | _, _, _ => []

abbrev control (q : EventQuery) (x : Sighting) : EventCall :=
  .control x.event (.only x.index) (if q.clears x.event then EventFlags.clear else 0)

def entries (home : UInt8) (q : EventQuery) (x : Sighting) : List (Entry deviceInterface) :=
  x.lookup ++ if x.selected home q then [⟨.event (x.control q), .ok x.count⟩] else []

inductive BreaksOff (home : UInt8) (q : EventQuery) (x : Sighting) (e : Error) : List (Entry deviceInterface) → Prop where
  | lookup : x.event.kind = .function → BreaksOff home q x e [⟨.event (.portOf x.index), .error e⟩]
  | control : x.Placed → x.selected home q = true →
    BreaksOff home q x e (x.lookup ++ [⟨.event (x.control q), .error e⟩])

variable {home : UInt8} {q : EventQuery} {x : Sighting} {c : EventCall} {e : Error}

theorem eq_of_mem_lookup {y : Entry deviceInterface} (h : y ∈ x.lookup)
    : ∃ place, y = ⟨.event (.portOf x.index), .ok place⟩ := by
  unfold lookup at h
  split at h
  . exact ⟨_, List.mem_singleton.mp h⟩
  . contradiction

theorem eq_of_mem_entries {y : Entry deviceInterface} (h : y ∈ x.entries home q)
    : y ∈ x.lookup ∨ x.selected home q = true ∧ y = ⟨.event (x.control q), .ok x.count⟩ := by
  unfold entries at h
  rcases List.mem_append.mp h with hlookup | hcontrol
  . exact .inl hlookup
  . split at hcontrol
    . next hselected => exact .inr ⟨hselected, List.mem_singleton.mp hcontrol⟩
    . contradiction

theorem failure_not_mem_lookup : (⟨.event c, .error e⟩ : Entry deviceInterface) ∉ x.lookup := by
  intro h
  obtain ⟨place, hplace⟩ := eq_of_mem_lookup h
  cases hplace

theorem failure_not_mem_entries : (⟨.event c, .error e⟩ : Entry deviceInterface) ∉ x.entries home q := by
  intro h
  rcases eq_of_mem_entries h with hlookup | ⟨_, hcontrol⟩
  . exact failure_not_mem_lookup hlookup
  . cases hcontrol

theorem failure_not_mem_flatMap {xs : List Sighting}
    : (⟨.event c, .error e⟩ : Entry deviceInterface) ∉ xs.flatMap (entries home q) := by
  intro h
  obtain ⟨x, _, hx⟩ := List.mem_flatMap.mp h
  exact failure_not_mem_entries hx

theorem exists_of_control_mem_flatMap {event : Event} {index : EventIndex} {flags : UInt32}
    {answer : (EventCall.control event index flags).Answer} {xs : List Sighting}
    (h : (⟨.event (.control event index flags), answer⟩ : Entry deviceInterface) ∈ xs.flatMap (entries home q))
    : ∃ x ∈ xs,
        x.selected home q = true
          ∧
        x.lookup <:+: xs.flatMap (entries home q)
          ∧
        EventCall.control event index flags = x.control q := by
  obtain ⟨x, hx, hmem⟩ := List.mem_flatMap.mp h
  rcases eq_of_mem_entries hmem with hlookup | ⟨hselected, hcontrol⟩
  . obtain ⟨place, hplace⟩ := eq_of_mem_lookup hlookup
    cases hplace
  . have hprefix : x.lookup <+: x.entries home q := List.prefix_append _ _
    have hinfix : x.entries home q <:+: xs.flatMap (entries home q) := by
      rw [List.flatMap_def]
      exact List.infix_of_mem_flatten (List.mem_map_of_mem hx)
    refine ⟨x, hx, hselected, hprefix.isInfix.trans hinfix, ?_⟩
    cases hcontrol
    rfl

theorem BreaksOff.eq_append {last : List (Entry deviceInterface)} (h : x.BreaksOff home q e last)
    : ∃ before c,
        last = before ++ [⟨.event c, .error e⟩]
          ∧
        ∀ c e', (⟨.event c, .error e'⟩ : Entry deviceInterface) ∉ before := by
  cases h with
  | lookup _ => exact ⟨[], _, rfl, fun _ _ => List.not_mem_nil⟩
  | control _ _ => exact ⟨x.lookup, _, rfl, fun _ _ => failure_not_mem_lookup⟩

end Sighting

namespace EventQuery

open Sighting

structure Lists (home : UInt8) (q : EventQuery) (marked : List (Event × Nat)) (xs : List Sighting)
    (t : List (Entry deviceInterface)) : Prop where
  all : xs.map pair = marked.filter fun p => q.admits p.2
  placed : ∀ x ∈ xs, x.Placed
  asked : t = xs.flatMap (entries home q)

structure FailsAt (home : UInt8) (q : EventQuery) (marked : List (Event × Nat)) (xs : List Sighting)
    (x : Sighting) (e : Error) (t : List (Entry deviceInterface)) : Prop where
  next : xs.map pair ++ [x.pair] <+: marked.filter fun p => q.admits p.2
  placed : ∀ x ∈ xs, x.Placed
  asked : ∃ last, x.BreaksOff home q e last ∧ t = xs.flatMap (entries home q) ++ last

variable {home : UInt8} {q : EventQuery} {p : Event × Nat} {marked : List (Event × Nat)} {x y : Sighting}
  {xs : List Sighting} {e : Error} {t last : List (Entry deviceInterface)}

theorem Lists.skip (hadmits : q.admits p.2 = false) (h : q.Lists home marked xs t) : q.Lists home (p :: marked) xs t := by
  refine ⟨?_, h.placed, h.asked⟩
  rw [List.filter_cons, hadmits, if_neg Bool.false_ne_true, h.all]

theorem FailsAt.skip (hadmits : q.admits p.2 = false) (h : q.FailsAt home marked xs x e t)
    : q.FailsAt home (p :: marked) xs x e t := by
  refine ⟨?_, h.placed, h.asked⟩
  rw [List.filter_cons, hadmits, if_neg Bool.false_ne_true]
  exact h.next

theorem Lists.cons (hadmits : q.admits y.pair.2 = true) (hplaced : y.Placed) (h : q.Lists home marked xs t)
    : q.Lists home (y.pair :: marked) (y :: xs) (y.entries home q ++ t) := by
  refine ⟨?_, List.forall_mem_cons.mpr ⟨hplaced, h.placed⟩, ?_⟩
  . rw [List.filter_cons, hadmits, if_pos rfl, List.map_cons, h.all]
  . rw [h.asked, List.flatMap_cons]

theorem FailsAt.cons (hadmits : q.admits y.pair.2 = true) (hplaced : y.Placed) (h : q.FailsAt home marked xs x e t)
    : q.FailsAt home (y.pair :: marked) (y :: xs) x e (y.entries home q ++ t) := by
  obtain ⟨last, hlast, ht⟩ := h.asked
  refine ⟨?_, List.forall_mem_cons.mpr ⟨hplaced, h.placed⟩, last, hlast, ?_⟩
  . rw [List.filter_cons, hadmits, if_pos rfl, List.map_cons, List.cons_append]
    exact List.cons_prefix_cons.mpr ⟨rfl, h.next⟩
  . rw [ht, List.flatMap_cons, List.append_assoc]

theorem FailsAt.first (hadmits : q.admits x.pair.2 = true) (hlast : x.BreaksOff home q e last)
    : q.FailsAt home (x.pair :: marked) [] x e last := by
  refine ⟨?_, List.forall_mem_nil _, last, hlast, rfl⟩
  rw [List.filter_cons, hadmits, if_pos rfl]
  exact List.cons_prefix_cons.mpr ⟨rfl, List.nil_prefix⟩

theorem FailsAt.eq_append (h : q.FailsAt home marked xs x e t)
    : ∃ before c,
        t = before ++ [⟨.event c, .error e⟩]
          ∧
        ∀ c e', (⟨.event c, .error e'⟩ : Entry deviceInterface) ∉ before := by
  obtain ⟨last, hlast, rfl⟩ := h.asked
  obtain ⟨before, c, rfl, hbefore⟩ := hlast.eq_append
  refine ⟨xs.flatMap (entries home q) ++ before, c, (List.append_assoc _ _ _).symm, ?_⟩
  intro c' e' hmem
  rcases List.mem_append.mp hmem with hasked | hmem
  . exact failure_not_mem_flatMap hasked
  . exact hbefore c' e' hmem

structure Controls (home : UInt8) (q : EventQuery) (marked : List (Event × Nat)) (t : List (Entry deviceInterface))
    (c : EventCall) (x : Sighting) : Prop where
  marked : x.pair ∈ marked
  placed : x.Placed
  selected : x.selected home q = true
  located : x.lookup <:+: t
  call : c = x.control q

section

variable {event : Event} {index : EventIndex} {flags : UInt32} {answer : (EventCall.control event index flags).Answer}

theorem Lists.controls (h : q.Lists home marked xs t)
    (hmem : (⟨.event (.control event index flags), answer⟩ : Entry deviceInterface) ∈ t)
    : ∃ x, q.Controls home marked t (.control event index flags) x := by
  rw [h.asked] at hmem ⊢
  obtain ⟨x, hx, hselected, hlocated, hcall⟩ := exists_of_control_mem_flatMap hmem
  have hpair : x.pair ∈ marked.filter fun p => q.admits p.2 := by
    rw [← h.all]
    exact List.mem_map_of_mem hx
  exact ⟨x, (List.mem_filter.mp hpair).1, h.placed x hx, hselected, hlocated, hcall⟩

theorem FailsAt.controls (h : q.FailsAt home marked xs x e t)
    (hmem : (⟨.event (.control event index flags), answer⟩ : Entry deviceInterface) ∈ t)
    : ∃ x, q.Controls home marked t (.control event index flags) x := by
  obtain ⟨last, hlast, rfl⟩ := h.asked
  have hmarked : ∀ y ∈ xs ++ [x], y.pair ∈ marked := by
    intro y hy
    have hpair : y.pair ∈ xs.map pair ++ [x.pair] := by
      rw [← List.map_singleton, ← List.map_append]
      exact List.mem_map_of_mem hy
    exact (List.mem_filter.mp (h.next.subset hpair)).1
  rcases List.mem_append.mp hmem with hasked | hfailed
  . obtain ⟨y, hy, hselected, hlocated, hcall⟩ := exists_of_control_mem_flatMap hasked
    refine ⟨y, hmarked y (List.mem_append_left _ hy), h.placed y hy, hselected, ?_, hcall⟩
    exact List.infix_append_of_infix_left hlocated
  . cases hlast with
    | lookup _ =>
      cases List.mem_singleton.mp hfailed
    | control hplaced hselected =>
      refine ⟨x, hmarked x (List.mem_append_right _ (List.mem_singleton_self x)), hplaced, hselected, ?_, ?_⟩
      . apply List.infix_append'
      . rcases List.mem_append.mp hfailed with hlookup | hcontrol
        . obtain ⟨place, hplace⟩ := eq_of_mem_lookup hlookup
          cases hplace
        . cases List.mem_singleton.mp hcontrol
          rfl

end
end EventQuery

namespace Handle

open Operation Sighting

variable {h : Handle} {q : EventQuery} {event : Event} {index : Nat} {t : List (Entry deviceInterface)}

theorem yields_placeOf_bind (hevents : h.hasEvents = true)
    {f : Option UInt32 × Option UInt32 → Operation α} {result : Except Error α}
    (hyields : (h.placeOf event index >>= f).run.Yields t result)
    : (∃ e, event.kind = .function ∧ t = [⟨.event (.portOf index), .error e⟩] ∧ result = .error e) ∨
      (∃ partition port rest,
        (∀ count, Placed ⟨event, index, partition, port, count⟩)
          ∧
        (∀ count, t = lookup ⟨event, index, partition, port, count⟩ ++ rest)
          ∧
        (f (partition, port)).run.Yields rest result) := by
  unfold placeOf at hyields
  cases hkind : event.kind with
  | global =>
    rw [hkind] at hyields
    refine .inr ⟨none, none, t, ?_, ?_, hyields⟩
    . intro count
      simp [Placed, hkind]
    . intro count
      simp [lookup, hkind]
  | partition =>
    rw [hkind] at hyields
    refine .inr ⟨some (UInt32.ofNat index), none, t, ?_, ?_, hyields⟩
    . intro count
      simp [Placed, hkind]
    . intro count
      simp [lookup, hkind]
  | function =>
    rw [hkind] at hyields
    dsimp only at hyields
    unfold portOf at hyields
    rw [bind_assoc] at hyields
    rcases (yields_askEvents_bind hevents).mp hyields with ⟨e, rfl, rfl⟩ | ⟨⟨partition, port⟩, rest, rfl, hrest⟩
    . exact .inl ⟨e, rfl, rfl, rfl⟩
    . refine .inr ⟨some partition, some port, rest, ?_, ?_, hrest⟩
      . intro count
        simp [Placed, hkind]
      . intro count
        simp [lookup, hkind]

theorem yields_record? (hevents : h.hasEvents = true) (hcheck : EventIndex.check event (.only index) = .ok ())
    (hadmits : q.admits index = true) {result : Except Error (Option EventRecord)}
    (hyields : (h.record? q event index).run.Yields t result)
    : ∃ x : Sighting, x.pair = (event, index) ∧
        ((x.Placed
          ∧
        t = x.entries h.partition q
          ∧
        result = .ok (if x.selected h.partition q then some x.record else none)) ∨
        (∃ e, x.BreaksOff h.partition q e t ∧ result = .error e)) := by
  unfold record? at hyields
  rw [q.any_index_ne, hadmits, Bool.not_true, if_neg Bool.false_ne_true] at hyields
  rcases yields_placeOf_bind hevents hyields with ⟨e, hkind, rfl, rfl⟩ | ⟨partition, port, rest, hplaced, ht, hrest⟩
  . exact ⟨⟨event, index, none, none, 0⟩, rfl, .inr ⟨e, .lookup hkind, rfl⟩⟩
  have hforeign : (!q.allPartitions && partition ≠ some h.partition.toUInt32)
      = !selected h.partition q ⟨event, index, partition, port, 0⟩ := by
    unfold selected
    rw [Bool.not_or, ← decide_not]
  dsimp only at hrest
  rw [hforeign] at hrest
  cases hselected : selected h.partition q ⟨event, index, partition, port, 0⟩ with
  | false =>
    rw [hselected, if_pos (by rfl)] at hrest
    obtain ⟨rfl, rfl⟩ := yields_pure.mp hrest
    refine ⟨⟨event, index, partition, port, 0⟩, rfl, .inl ⟨hplaced 0, ?_, ?_⟩⟩
    . rw [ht 0, entries, hselected, if_neg Bool.false_ne_true]
    . rw [hselected, if_neg Bool.false_ne_true]
  | true =>
    rw [hselected, if_neg (by decide), controlEvent, bind_assoc, ofExcept_ok_bind hcheck, q.flags_eq] at hrest
    rcases (yields_askEvents_bind hevents).mp hrest with ⟨e, rfl, rfl⟩ | ⟨count, rest, rfl, hdone⟩
    . refine ⟨⟨event, index, partition, port, 0⟩, rfl, .inr ⟨e, ?_, rfl⟩⟩
      rw [ht 0]
      exact .control (hplaced 0) hselected
    . obtain ⟨rfl, rfl⟩ := yields_pure.mp hdone
      refine ⟨⟨event, index, partition, port, count⟩, rfl, .inl ⟨hplaced count, ?_, ?_⟩⟩
      . change t = lookup _ ++ if selected h.partition q ⟨event, index, partition, port, 0⟩ then _ else _
        rw [ht count, hselected, if_pos rfl]
      . change _ = Except.ok (if selected h.partition q ⟨event, index, partition, port, 0⟩ then _ else _)
        rw [hselected, if_pos rfl]
        rfl

theorem record?_of_not_admits (hadmits : q.admits index = false) : h.record? q event index = pure none := by
  unfold record?
  rw [q.any_index_ne, hadmits, Bool.not_false, if_pos rfl]

theorem yields_records (hevents : h.hasEvents = true) {marked : List (Event × Nat)}
    (hchecks : ∀ p ∈ marked, q.admits p.2 = true → EventIndex.check p.1 (.only p.2) = .ok ()) {result : Except Error (List EventRecord)}
    (hyields : (h.records q marked).run.Yields t result)
    : (∃ xs,
        q.Lists h.partition marked xs t
          ∧
        result = .ok ((xs.filter (selected h.partition q)).map record)) ∨
      (∃ xs x e, q.FailsAt h.partition marked xs x e t ∧ result = .error e) := by
  induction marked generalizing t result with
  | nil =>
    obtain ⟨rfl, rfl⟩ := yields_pure.mp hyields
    exact .inl ⟨[], ⟨rfl, List.forall_mem_nil _, rfl⟩, rfl⟩
  | cons p marked ih =>
    obtain ⟨event, index⟩ := p
    rw [List.forall_mem_cons] at hchecks
    unfold records at hyields
    cases hadmits : q.admits index with
    | false =>
      rw [record?_of_not_admits hadmits, pure_bind] at hyields
      obtain ⟨answer, hrest, rfl⟩ := yields_bind_pure.mp hyields
      rcases ih hchecks.2 hrest with ⟨xs, hlists, rfl⟩ | ⟨xs, x, e, hfails, rfl⟩
      . exact .inl ⟨xs, hlists.skip hadmits, rfl⟩
      . exact .inr ⟨xs, x, e, hfails.skip hadmits, rfl⟩
    | true =>
      rcases Program.yields_run_bind.mp hyields with ⟨e, hfirst, rfl⟩ | ⟨first, t₁, t₂, rfl, hfirst, hrest⟩
      . obtain ⟨x, hpair, ⟨_, _, hresult⟩ | ⟨e', hbreak, hresult⟩⟩ := yields_record? hevents (hchecks.1 hadmits) hadmits hfirst
        . cases hresult
        . cases hpair
          cases hresult
          exact .inr ⟨[], x, e, .first hadmits hbreak, rfl⟩
      . obtain ⟨x, hpair, ⟨hplaced, rfl, hresult⟩ | ⟨e, _, hresult⟩⟩ := yields_record? hevents (hchecks.1 hadmits) hadmits hfirst
        . cases hpair
          cases hresult
          obtain ⟨answer, hothers, rfl⟩ := yields_bind_pure.mp hrest
          rcases ih hchecks.2 hothers with ⟨xs, hlists, rfl⟩ | ⟨xs, x', e, hfails, rfl⟩
          . refine .inl ⟨x :: xs, hlists.cons hadmits hplaced, ?_⟩
            rw [List.filter_cons]
            cases x.selected h.partition q <;> rfl
          . exact .inr ⟨x :: xs, x', e, hfails.cons hadmits hplaced, rfl⟩
        . cases hresult

end Handle

theorem Summary.check_of_mem_occurred {s : Summary} (hpartitions : s.partitions.length = maxPartitions)
    (hfunctions : s.functions.length = maxFunctions)
    : ∀ p ∈ s.occurred, EventIndex.check p.1 (.only p.2) = .ok () := by
  rintro ⟨event, index⟩ hp
  obtain ⟨word, hword, _⟩ := mem_occurred.mp hp
  unfold word? at hword
  unfold EventIndex.check
  dsimp only
  cases hkind : event.kind with
  | global => rfl
  | partition =>
    rw [hkind] at hword
    have hlt := (List.getElem?_eq_some_iff.mp hword).1
    rw [List.length_map, hpartitions] at hlt
    exact if_pos hlt
  | function =>
    rw [hkind] at hword
    have hlt := (List.getElem?_eq_some_iff.mp hword).1
    rw [List.length_map, hfunctions] at hlt
    exact if_pos hlt

open Sighting in
/--
A listing asks the driver once about each marked event that the query selects, in the order of the summary, and
clears what the query says. Other events are left alone. It lists exactly what was asked about. At the first
failure it ends and fails the same way.
-/
theorem listing_touches_what_is_selected (h : Handle) (hevents : h.hasEvents = true) {s : Summary}
    (hpartitions : s.partitions.length = maxPartitions) (hfunctions : s.functions.length = maxFunctions)
    (q : EventQuery) (outside : Handler deviceInterface σ) (state : σ)
    : let t := (h.events s q).run.transcript outside state
      let result := (h.events s q).result outside state
      (s.occurred.Nodup ∧ ∀ event index, (event, index) ∈ s.occurred ↔ s.Marks event index)
        ∧
      ((∀ c e, ⟨.event c, .error e⟩ ∉ t) →
        ∃ xs records,
          q.Lists h.partition s.occurred xs t
            ∧
          result = .ok records
            ∧
          records.Perm ((xs.filter (selected h.partition q)).map record)
            ∧
          records.Pairwise fun r s => r.key ≤ s.key)
        ∧
      (∀ before c e after, t = before ++ ⟨.event c, .error e⟩ :: after →
        after = [] ∧ result = .error e ∧ ∃ xs x, q.FailsAt h.partition s.occurred xs x e t)
        ∧
      ∀ event index flags answer, ⟨.event (.control event index flags), answer⟩ ∈ t →
        ∃ x, q.Controls h.partition s.occurred t (.control event index flags) x := by
  intro t result
  have hyields : (h.events s q).run.Yields t result := Program.yields_transcript outside _ state
  obtain ⟨answer, hrecords, hresult⟩ := Operation.yields_bind_pure.mp hyields
  have hchecks := s.check_of_mem_occurred hpartitions hfunctions
  have hruns := h.yields_records hevents (fun p hp _ => hchecks p hp) hrecords
  refine ⟨⟨s.nodup_occurred, fun _ _ => Summary.mem_occurred⟩, ?_, ?_, ?_⟩
  . intro hanswered
    rcases hruns with ⟨xs, hlists, rfl⟩ | ⟨xs, x, e, hfails, rfl⟩
    . refine ⟨xs, _, hlists, hresult, List.mergeSort_perm _ _, ?_⟩
      apply EventRecord.pairwise_mergeSort
    . obtain ⟨before, c, ht, _⟩ := hfails.eq_append
      exact absurd (ht ▸ List.mem_append_right before (List.mem_singleton_self _)) (hanswered c e)
  . intro before c e after ht
    rcases hruns with ⟨xs, hlists, _⟩ | ⟨xs, x, e', hfails, rfl⟩
    . rw [hlists.asked] at ht
      exact absurd (ht ▸ List.mem_append_right before List.mem_cons_self) failure_not_mem_flatMap
    . obtain ⟨answered, d, hlast, hanswered⟩ := hfails.eq_append
      obtain ⟨rfl, rfl⟩ := Entry.eq_of_last_failure (ht.symm.trans hlast) hanswered
      exact ⟨rfl, hresult, xs, x, hfails⟩
  . intro event index flags answer hmem
    rcases hruns with ⟨xs, hlists, _⟩ | ⟨xs, x, e, hfails, _⟩
    . exact hlists.controls hmem
    . exact hfails.controls hmem

open Sighting Simulation in
/--
Of two ports with a pending event the foreign one is only located. If counting the first event fails, nothing else
is asked.
-/
theorem foreign_event_is_left_alone
    : let s : Summary := { Summary.empty with
        partitions := Summary.empty.partitions.set 1 1
        functions := (Summary.empty.functions.set 2 128).set 3 128 }
      let q : EventQuery := { clear := 0x800000 }
      let places := [(2, 1, 5), (3, 0, 7)]
      let switch : Switch := { events := .reports { counts := [.ok 3, .ok 4], places } }
      let broken : Switch := { events := .reports { counts := [.error (.unsupported "counts")] } }
      let h := switch.handle "switch" 1 .gen4
      let t := (h.events s q).run.transcript Switch.device switch
      t = [
          ⟨.event (.control .partitionReset (.only 1) 0), .ok 3⟩,
          ⟨.event (.portOf 2), .ok (1, 5)⟩,
          ⟨.event (.control .counterThreshold (.only 2) EventFlags.clear), .ok 4⟩,
          ⟨.event (.portOf 3), .ok (0, 7)⟩
        ]
        ∧
      (∃ xs records,
        q.Lists h.partition s.occurred xs t
          ∧
        (h.events s q).result Switch.device switch = .ok records
          ∧
        records.Perm ((xs.filter (selected h.partition q)).map record)
          ∧
        records.Pairwise fun r s => r.key ≤ s.key)
        ∧
      (h.events s q).result Switch.device broken = .error (.unsupported "counts")
        ∧
      ∃ x, q.Controls h.partition s.occurred t (.control .partitionReset (.only 1) 0) x := by
  intro s q places switch broken h t
  have hmarked : s.occurred = [(.partitionReset, 1), (.counterThreshold, 2), (.counterThreshold, 3)] := by
    decide +kernel
  have hevents : h.events s q = do return (← h.records q s.occurred).mergeSort EventRecord.le := by
    rfl
  have hasked : t = [
      ⟨.event (.control .partitionReset (.only 1) 0), .ok 3⟩,
      ⟨.event (.portOf 2), .ok (1, 5)⟩,
      ⟨.event (.control .counterThreshold (.only 2) EventFlags.clear), .ok 4⟩,
      ⟨.event (.portOf 3), .ok (0, 7)⟩
    ] := by
    unfold t
    rw [hevents, hmarked]
    dsimp only [h, q, switch, places]
    rfl
  have hfailed : (h.events s q).run.transcript Switch.device broken
      = [] ++ ⟨.event (.control .partitionReset (.only 1) 0), .error (.unsupported "counts")⟩ :: [] := by
    rw [hevents, hmarked]
    dsimp only [h, q, broken, switch, places]
    rfl
  obtain ⟨_, hlists, _, hcontrols⟩ :=
    listing_touches_what_is_selected h rfl (s := s) (by decide) (by decide +kernel) q Switch.device switch
  obtain ⟨_, _, hfails, _⟩ :=
    listing_touches_what_is_selected h rfl (s := s) (by decide) (by decide +kernel) q Switch.device broken
  refine ⟨hasked, hlists ?_, (hfails _ _ _ _ hfailed).2.1, ?_⟩
  . intro c e hmem
    change _ ∈ t at hmem
    rw [hasked] at hmem
    simp only [List.mem_cons, List.not_mem_nil, or_false] at hmem
    rcases hmem with hmem | hmem | hmem | hmem <;> cases hmem
  . apply hcontrols
    change _ ∈ t
    rw [hasked]
    exact List.mem_cons_self

end PcieSwitch
