import PcieSwitch.Proofs.DriverCalls
import PcieSwitch.Proofs.EventMarks
import PcieSwitch.Proofs.Layout
import PcieSwitch.Proofs.PendingEvents
import PcieSwitch.Proofs.RegisterMemory
import PcieSwitch.Simulation.Switch

/-!
This module contains the two structures of a summary. The shorter one, which older drivers know, is the beginning of the
longer one and is read like it. A driver is asked for the shorter one if it refuses the longer one, and whichever it
gives, the summary has every word that an accepted index needs.
-/

namespace PcieSwitch

theorem Bytes.slice_take (bs : Bytes) {offset width n : Nat} (h : offset + width ≤ n)
    : Bytes.slice (bs.take n) offset width = bs.slice offset width := by
  unfold slice
  rw [List.drop_take, List.take_take, Nat.min_eq_left (Nat.le_sub_of_add_le' h)]

theorem Bytes.toNat_slice_fit (bs : Bytes) {offset width n : Nat} (h : offset + width ≤ n)
    : ((bs.fit n).slice offset width).toNat = (bs.slice offset width).toNat := by
  obtain ⟨rest, rfl⟩ := Nat.exists_eq_add_of_le h
  unfold slice
  rw [Nat.add_assoc, drop_fit, take_fit _ (Nat.le_add_right width rest), toNat_fit]

namespace Summary

/--
The summary that an image of its structure holds, each word from its place. The four bytes behind the word of the local
partition hold nothing.
-/
def ofImage (functions : Nat) (image : Bytes) : Summary where
  global := UInt64.ofNat (image.slice 0 8).toNat
  partitionBitmap := UInt64.ofNat (image.slice 8 8).toNat
  localPartition := UInt32.ofNat (image.slice 16 4).toNat
  partitions := (List.range maxPartitions).map fun i => UInt32.ofNat (image.slice (24 + 4 * i) 4).toNat
  functions :=
    (List.range functions).map (fun i => UInt32.ofNat (image.slice (216 + 4 * i) 4).toNat)
      ++ List.replicate (maxFunctions - functions) 0

def shortened (s : Summary) : Summary :=
  { s with functions := s.functions.take shortFunctions ++ List.replicate (maxFunctions - shortFunctions) 0 }

theorem ofImage_congr {functions : Nat} {image other : Bytes}
    (h : ∀ offset width, offset + width ≤ 216 + 4 * functions →
      (image.slice offset width).toNat = (other.slice offset width).toNat)
    : ofImage functions image = ofImage functions other := by
  have hpartitions : ∀ i ∈ List.range maxPartitions,
      UInt32.ofNat (image.slice (24 + 4 * i) 4).toNat = UInt32.ofNat (other.slice (24 + 4 * i) 4).toNat := by
    intro i hi
    have hlt : i < 48 := List.mem_range.mp hi
    rw [h (24 + 4 * i) 4 (by omega)]
  have hfunctions : ∀ i ∈ List.range functions,
      UInt32.ofNat (image.slice (216 + 4 * i) 4).toNat = UInt32.ofNat (other.slice (216 + 4 * i) 4).toNat := by
    intro i hi
    have hlt := List.mem_range.mp hi
    rw [h (216 + 4 * i) 4 (by omega)]
  unfold ofImage
  rw [h 0 8 (by omega), h 8 8 (by omega), h 16 4 (by omega), List.map_congr_left hpartitions,
    List.map_congr_left hfunctions]

theorem takes_readStructure (functions : Nat)
    : (readStructure functions).Takes (216 + 4 * functions) (ofImage functions) := by
  have h := Read.takes_bind Read.takes_u64 fun global => Read.takes_bind Read.takes_u64 fun partitionBitmap =>
    Read.takes_bind Read.takes_u32 fun localPartition => Read.takes_bind (Read.takes_skip 4) fun _ =>
    Read.takes_bind (Read.takes_times Read.takes_u32 maxPartitions) fun partitions =>
    Read.takes_map (Read.takes_times Read.takes_u32 functions) fun words => {
      global
      partitionBitmap
      localPartition
      partitions
      functions := words ++ List.replicate (maxFunctions - functions) 0 : Summary
    }
  have hwidth : 8 + (8 + (4 + (4 + (4 * maxPartitions + 4 * functions)))) = 216 + 4 * functions := by
    unfold maxPartitions
    omega
  rw [hwidth] at h
  apply Read.takes_congr h
  intro image _
  unfold ofImage Read.entry Bytes.slice
  simp only [List.drop_drop]
  congr 1
  -- the words of the partitions are cut out before they are read one by one
  apply List.map_congr_left
  intro i hi
  have hlt : i < 48 := List.mem_range.mp hi
  change UInt32.ofNat (Bytes.toNat (Bytes.slice ((image.drop 24).take 192) (4 * i) 4)) = _
  rw [Bytes.slice_take _ (by omega), Bytes.slice, List.drop_drop]

theorem read_readStructure (functions : Nat) (image : Bytes)
    : image.read (readStructure functions) = ofImage functions image := by
  unfold Bytes.read
  rw [takes_readStructure]
  apply ofImage_congr
  intro offset width h
  exact image.toNat_slice_fit h

theorem shortened_ofImage (image : Bytes) : (ofImage maxFunctions image).shortened = ofImage shortFunctions image := by
  have hmin : min shortFunctions maxFunctions = shortFunctions := by decide
  unfold shortened ofImage
  dsimp only
  rw [Nat.sub_self, List.replicate_zero, List.append_nil, ← List.map_take, List.take_range, hmin]

theorem full_ofImage {functions : Nat} (h : functions ≤ maxFunctions) (image : Bytes)
    : (ofImage functions image).Full := by
  constructor
  case partitions => simp [ofImage]
  case functions =>
    simp only [ofImage, List.length_append, List.length_map, List.length_range, List.length_replicate]
    omega

theorem marks_iff_test {s : Summary} {event : Event} (hkind : event.kind ≠ .global) (number : Nat)
    : s.Marks event number ↔ s.test event number = true := by
  rw [test_eq_true_iff]
  unfold Marks word? Has Event.word
  cases h : event.kind with
  | global => exact absurd h hkind
  | partition => simp only [wordAt?, List.getElem?_map]
  | function => simp only [wordAt?, List.getElem?_map]

section

variable {s marked : Summary} {m : Mark}

theorem Full.test_of_set (h : s.Full) (hset : s.set m.event m.index = .ok marked) {number : Nat}
    (hcovers : m.Covers m.event number) : marked.test m.event number = true := by
  obtain ⟨hsome, _, hreaches, _⟩ := (m.sets_iff_covers h m.event number).mpr hcovers
  rw [test_eq_true_iff, has_set hset]
  exact Or.inr ⟨hsome, hreaches, rfl⟩

theorem Full.pending_of_set (h : s.Full) (hset : s.set m.event m.index = .ok marked)
    : marked.Pending m.event m.index := by
  have haccepted := accepted_of_set hset
  have hmarks : ∀ number, m.event.kind ≠ .global →
      m.index = .only number ∨ m.index = .all ∧ number < m.event.kind.count → marked.Marks m.event number := by
    intro number hkind hindex
    rw [marks_iff_test hkind]
    exact h.test_of_set hset ⟨haccepted, rfl, Or.inr hindex⟩
  have hword : ∀ word n, marked.wordAt? word = some n → (s.wordAt? word).isSome → m.reaches word = true →
      n.testBit m.event.bit = true := by
    intro word n hn hsome hreaches
    obtain ⟨_, hn', hbit⟩ := (has_set hset).mpr (Or.inr ⟨hsome, hreaches, rfl⟩)
    cases hn.symm.trans hn'
    exact hbit
  obtain ⟨event, index⟩ := m
  unfold Mark.reaches at hword
  unfold Mark.Accepted EventIndex.check at haccepted
  unfold Pending
  dsimp only at haccepted hmarks hword ⊢
  cases hkind : event.kind with
  | global =>
    rw [hkind] at hword
    exact hword .global _ rfl rfl rfl
  | partition =>
    rw [hkind] at hmarks hword
    cases index with
    | localPartition => exact hword .localPartition _ rfl rfl rfl
    | all => exact ⟨0, by decide, hmarks 0 nofun (Or.inr ⟨rfl, by decide⟩)⟩
    | only i => exact hmarks i nofun (Or.inl rfl)
  | function =>
    rw [hkind] at hmarks haccepted
    cases index with
    | localPartition => cases haccepted
    | all => exact ⟨0, by decide, hmarks 0 nofun (Or.inr ⟨rfl, by decide⟩)⟩
    | only i => exact hmarks i nofun (Or.inl rfl)

end

structure Complete (s : Summary) : Prop where
  full : s.Full
  test : ∀ event number, EventIndex.check event (.only number) = .ok () →
    ∃ word, s.wordAt? (event.word number) = some word ∧ s.test event number = word.testBit event.bit
  occurred : ∀ event number, EventIndex.check event (.only number) = .ok () →
    (s.test event number = true ↔ (event, if event.kind = .global then 0 else number) ∈ s.occurred)
  intersects : ∀ event index asked, empty.set event index = .ok asked →
    (asked.intersects s = true ↔ s.Pending event index)
  set : ∀ event index, EventIndex.check event index = .ok () →
    ∃ marked, s.set event index = .ok marked ∧ marked.Full ∧ marked.Pending event index
      ∧ ∀ number, Mark.Covers ⟨event, index⟩ event number → marked.test event number = true

theorem Full.complete {s : Summary} (h : s.Full) : s.Complete := by
  have hlt : ∀ {event number}, EventIndex.check event (.only number) = .ok () →
      event.kind = .global ∨ number < event.kind.count := by
    intro event number haccepted
    exact Mark.Accepted.number_lt (m := ⟨event, .only number⟩) haccepted rfl
  constructor
  case full => exact h
  case test =>
    intro event number haccepted
    obtain ⟨word, hword⟩ := Option.isSome_iff_exists.mp ((h.isSome_wordAt? event number).mpr (hlt haccepted))
    refine ⟨word, hword, ?_⟩
    rw [Bool.eq_iff_iff, test_eq_true_iff, Has, hword]
    simp only [Option.some.injEq, exists_eq_left']
  case occurred =>
    intro event number haccepted
    rw [mem_occurred_iff_test h]
    by_cases hkind : event.kind = .global
    . have hsame : s.test event 0 = s.test event number := by
        unfold test
        rw [hkind]
      rw [if_pos hkind, hsame, hkind]
      exact (and_iff_left Nat.one_pos).symm
    . rw [if_neg hkind]
      exact (and_iff_left ((hlt haccepted).resolve_left hkind)).symm
  case intersects =>
    intro event index asked hasked
    exact intersects_iff hasked s
  case set =>
    intro event index haccepted
    obtain ⟨marked, hset⟩ := set_of_accepted (checkIndex_eq_ok_iff.mp haccepted) (s := s)
    exact ⟨marked, hset, (sameShape_set (m := ⟨event, index⟩) hset).full h,
      h.pending_of_set (m := ⟨event, index⟩) hset,
      fun number hcovers => h.test_of_set (m := ⟨event, index⟩) hset hcovers⟩

end Summary

namespace EventCall

def summaryCall : FileCall := .control .summary (.zeros 1240)

def shortSummaryCall : FileCall := .control .shortSummary (.zeros 408)

variable {kernel : Handler fileInterface φ} {f : φ}

theorem calling_summary_of_ok {image : Bytes} (h : (kernel summaryCall f).1 = .ok image)
    : FileWork.calling kernel (overFile .summary) f
        =
      (.ok (image.read (Summary.readStructure maxFunctions)), [summaryCall]) := by
  have hfull : (kernel (.control .summary (.zeros Ioctl.summary.size)) f).1 = .ok image := h
  unfold FileWork.calling overFile summaryOverFile summaryOverFile.full
  rw [Program.attempt_tryCatch, FileWork.attempt_control_read, Handler.traced_apply, hfull]
  rfl

theorem calling_summary_of_error {e : SystemError} (h : (kernel summaryCall f).1 = .error e)
    : FileWork.calling kernel (overFile .summary) f
        =
      ((FileWork.wrap ((kernel shortSummaryCall (kernel summaryCall f).2).1.mapError SystemError.known)).map
          fun image => image.read (Summary.readStructure Summary.shortFunctions),
        [summaryCall, shortSummaryCall]) := by
  have hfull : (kernel (.control .summary (.zeros Ioctl.summary.size)) f).1 = .error e := h
  unfold FileWork.calling overFile summaryOverFile summaryOverFile.full
  rw [Program.attempt_tryCatch, FileWork.attempt_control_read, Handler.traced_apply, hfull]
  dsimp only [Except.mapError, FileWork.wrap, Except.map]
  rw [FileWork.attempt_control_read]
  rfl

structure Summarized (kernel : Handler fileInterface φ) (f : φ) (result : Except Error Summary) (calls : List FileCall)
    : Prop where
  first : ∀ image, (kernel summaryCall f).1 = .ok image →
    result = .ok (image.read (Summary.readStructure maxFunctions)) ∧ calls = [summaryCall]
  second : ∀ e image, (kernel summaryCall f).1 = .error e →
    (kernel shortSummaryCall (kernel summaryCall f).2).1 = .ok image →
      result = .ok (image.read (Summary.readStructure Summary.shortFunctions)) ∧ calls = [summaryCall, shortSummaryCall]
  neither : ∀ e e', (kernel summaryCall f).1 = .error e →
    (kernel shortSummaryCall (kernel summaryCall f).2).1 = .error e' →
      result = .error (.system e'.known) ∧ calls = [summaryCall, shortSummaryCall]
  length_calls : calls.length ≤ 2
  complete : ∀ s, result = .ok s → s.Complete

theorem summarized (kernel : Handler fileInterface φ) (f : φ)
    : Summarized kernel f (FileWork.calling kernel (overFile .summary) f).1
        (FileWork.calling kernel (overFile .summary) f).2 := by
  have hread : ∀ {functions : Nat} (image : Bytes), functions ≤ maxFunctions →
      (image.read (Summary.readStructure functions)).Complete := by
    intro functions image hle
    rw [Summary.read_readStructure]
    exact (Summary.full_ofImage hle image).complete
  cases hfirst : (kernel summaryCall f).1 with
  | ok image =>
    rw [calling_summary_of_ok hfirst]
    constructor
    case first =>
      intro other hother
      cases hfirst.symm.trans hother
      exact ⟨rfl, rfl⟩
    case second => exact fun e image h => nomatch hfirst.symm.trans h
    case neither => exact fun e e' h => nomatch hfirst.symm.trans h
    case length_calls => exact Nat.le_succ 1
    case complete =>
      intro s hs
      rw [← Except.ok.inj hs]
      exact hread image (Nat.le_refl _)
  | error e =>
    rw [calling_summary_of_error hfirst]
    constructor
    case first => exact fun image h => nomatch hfirst.symm.trans h
    case second =>
      intro e image _ hsecond
      rw [hsecond]
      exact ⟨rfl, rfl⟩
    case neither =>
      intro e e' _ hsecond
      rw [hsecond]
      exact ⟨rfl, rfl⟩
    case length_calls => exact Nat.le_refl 2
    case complete =>
      intro s hs
      cases hsecond : (kernel shortSummaryCall (kernel summaryCall f).2).1 with
      | ok image =>
        rw [hsecond] at hs
        rw [← Except.ok.inj hs]
        exact hread image (by decide)
      | error e' =>
        rw [hsecond] at hs
        cases hs

end EventCall

/--
The shorter structure of a summary is the beginning of the longer one and is read as the same summary, but for the port
functions that it lacks. Whatever a kernel answers, a summary comes from the first question that it answers, and no
accepted index is missed in it.
-/
theorem summary_layouts_agree (kernel : Handler fileInterface φ) (f : φ)
    : (∀ image : Bytes,
        image.read (Summary.readStructure maxFunctions) = .ofImage maxFunctions image
          ∧
        Bytes.read (image.take 408) (Summary.readStructure Summary.shortFunctions)
          = (image.read (Summary.readStructure maxFunctions)).shortened)
        ∧
      EventCall.Summarized kernel f (FileWork.calling kernel (EventCall.overFile .summary) f).1
        (FileWork.calling kernel (EventCall.overFile .summary) f).2 := by
  refine ⟨fun image => ⟨Summary.read_readStructure maxFunctions image, ?_⟩, EventCall.summarized kernel f⟩
  rw [Summary.read_readStructure, Summary.read_readStructure, Summary.shortened_ofImage]
  apply Summary.ofImage_congr
  intro offset width h
  exact congrArg Bytes.toNat (image.slice_take h)

open Simulation in
/--
An older driver refuses the first question. Of the port functions that it knows the last one is listed.
-/
theorem older_driver_is_asked_again
    : let switch : Switch := {
        events := .kernel [{ failure := some .notATerminal }, { pieces := [(404, [0x00, 0x10, 0x00, 0x00])] }]
      }
      (FileWork.calling Switch.file (EventCall.overFile .summary) switch).2
        = [EventCall.summaryCall, EventCall.shortSummaryCall]
        ∧
      ∃ s, (FileWork.calling Switch.file (EventCall.overFile .summary) switch).1 = .ok s
        ∧ (.linkState, 47) ∈ s.occurred := by
  intro switch
  have hfirst : (Switch.file EventCall.summaryCall switch).1 = .error .notATerminal := rfl
  have hsecond : (Switch.file EventCall.shortSummaryCall (Switch.file EventCall.summaryCall switch).2).1
      = .ok (Bytes.overwrite (.zeros 408) 404 [0x00, 0x10, 0x00, 0x00]) := rfl
  obtain ⟨_, hsummarized⟩ := summary_layouts_agree Switch.file switch
  obtain ⟨hresult, hcalls⟩ := hsummarized.second _ _ hfirst hsecond
  refine ⟨hcalls, _, hresult, ?_⟩
  have hlast : (Bytes.read (Bytes.overwrite (.zeros 408) 404 [0x00, 0x10, 0x00, 0x00])
      (Summary.readStructure Summary.shortFunctions)).test .linkState 47 = true := by
    rw [Summary.read_readStructure]
    decide +kernel
  exact ((hsummarized.complete _ hresult).occurred .linkState 47 rfl).mp hlast

end PcieSwitch
