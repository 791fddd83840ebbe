import PcieSwitch.CommandLine.Action.Events
import PcieSwitch.Proofs.EventListing
import PcieSwitch.Proofs.EventWaiting
import PcieSwitch.Proofs.SessionCalls
import PcieSwitch.Simulation.Console

/-!
This module contains what the command that waits for an event lists once the event shows: all events at the number
that it waited at, of whatever kind.
-/

namespace PcieSwitch

namespace Entry

def shown? : Entry sessionInterface → Option Summary
  | ⟨.device c, answer⟩ => Entry.summary? ⟨c, answer⟩
  | _ => none

theorem filterMap_shown_ofDevice (asked : List (Entry deviceInterface))
    : (asked.map Entry.ofDevice).filterMap shown? = asked.filterMap Entry.summary? := by
  rw [List.filterMap_map]
  rfl

theorem filterMap_shown_of_plain {t : List (Entry sessionInterface)} (h : ∀ entry ∈ t, entry.1.Plain)
    : t.filterMap shown? = [] := by
  rw [List.filterMap_eq_nil_iff]
  rintro ⟨c, answer⟩ hentry
  cases c with
  | device c => cases h _ hentry
  | _ => rfl

end Entry

def Entry.agrees (place : Nat → UInt32 × UInt32) : Entry sessionInterface → Bool
  | ⟨.device (.event (.portOf number)), .ok answer⟩ => place number == answer
  | ⟨.device (.event (.functionOf partition port)), .ok number⟩ => place number == (partition, port)
  | _ => true

/--
The driver's two answers about port functions, the place of a function and the function at a place, are inverse to each
other: they are in one table.
-/
def Located (place : Nat → UInt32 × UInt32) (t : List (Entry sessionInterface)) : Prop :=
  ∀ entry ∈ t, entry.agrees place = true

def Event.placeAt (place : Nat → UInt32 × UInt32) (event : Event) (number : Nat) : Option UInt32 × Option UInt32 :=
  match event.kind with
  | .global => (none, none)
  | .partition => (some (UInt32.ofNat number), none)
  | .function => (some (place number).1, some (place number).2)

theorem Sighting.eq_placeAt {x : Sighting} {place : Nat → UInt32 × UInt32} {t : List (Entry sessionInterface)}
    (hlocated : Located place t) (hplaced : x.Placed) (hlookup : ∀ entry ∈ x.lookup, entry.ofDevice ∈ t)
    : (x.partition, x.port) = x.event.placeAt place x.index := by
  unfold Placed at hplaced
  unfold lookup at hlookup
  unfold Event.placeAt
  cases hkind : x.event.kind with
  | global | partition =>
    rw [hkind] at hplaced
    rw [hplaced.1, hplaced.2]
  | function =>
    rw [hkind] at hplaced hlookup
    obtain ⟨partition, hpartition⟩ := Option.isSome_iff_exists.mp hplaced.1
    obtain ⟨port, hport⟩ := Option.isSome_iff_exists.mp hplaced.2
    rw [hpartition, hport] at hlookup ⊢
    rw [beq_iff_eq.mp (hlocated _ (hlookup _ (List.mem_singleton_self _)))]

namespace EventQuery.Lists

variable {q : EventQuery} {home : UInt8} {s : Summary} {number : Nat} {xs : List Sighting}
  {t : List (Entry deviceInterface)} {records : List EventRecord}

theorem mem_pairs_iff (h : q.Lists home s.occurred xs t) (hindex : q.index = some number) {pair : Event × Nat}
    : pair ∈ xs.map Sighting.pair ↔ pair.2 = number ∧ s.Marks pair.1 number := by
  rw [h.all, List.mem_filter, admits, hindex, Option.all_some, beq_iff_eq, and_comm]
  constructor
  . rintro ⟨rfl, hmem⟩
    exact ⟨rfl, Summary.mem_occurred.mp hmem⟩
  . rintro ⟨rfl, hmarks⟩
    exact ⟨rfl, Summary.mem_occurred.mpr hmarks⟩

theorem index_eq (h : q.Lists home s.occurred xs t) (hindex : q.index = some number) {x : Sighting} (hx : x ∈ xs)
    : x.index = number :=
  ((h.mem_pairs_iff hindex).mp (List.mem_map_of_mem hx)).1

theorem marks_iff (h : q.Lists home s.occurred xs t) (hindex : q.index = some number)
    (hperm : records.Perm (xs.map Sighting.record)) (event : Event)
    : s.Marks event number ↔ ∃ r ∈ records, r.event = event := by
  constructor
  . intro hmarks
    have hlisted : (event, number) ∈ xs.map Sighting.pair := (h.mem_pairs_iff hindex).mpr ⟨rfl, hmarks⟩
    obtain ⟨x, hx, hpair⟩ := List.mem_map.mp hlisted
    exact ⟨x.record, hperm.mem_iff.mpr (List.mem_map_of_mem hx), congrArg Prod.fst hpair⟩
  . rintro ⟨r, hr, rfl⟩
    obtain ⟨x, hx, rfl⟩ := List.mem_map.mp (hperm.mem_iff.mp hr)
    exact ((h.mem_pairs_iff hindex).mp (List.mem_map_of_mem hx)).2

theorem nodup_events (h : q.Lists home s.occurred xs t) (hindex : q.index = some number)
    (hperm : records.Perm (xs.map Sighting.record)) : (records.map EventRecord.event).Nodup := by
  have hpairs : (xs.map Sighting.pair).Nodup := by
    rw [h.all]
    exact s.nodup_occurred.filter _
  have hevents : ((xs.map Sighting.pair).map Prod.fst).Nodup := by
    apply hpairs.map_on
    rintro ⟨event, i⟩ hi ⟨other, j⟩ hj rfl
    exact Prod.ext rfl (((h.mem_pairs_iff hindex).mp hi).1.trans ((h.mem_pairs_iff hindex).mp hj).1.symm)
  rw [(hperm.map EventRecord.event).nodup_iff, List.map_map]
  rw [List.map_map] at hevents
  exact hevents

theorem eq_placeAt (h : q.Lists home s.occurred xs t) (hindex : q.index = some number)
    (hperm : records.Perm (xs.map Sighting.record)) {place : Nat → UInt32 × UInt32} {u : List (Entry sessionInterface)}
    (hlocated : Located place u) (hasked : ∀ entry ∈ t, entry.ofDevice ∈ u)
    : ∀ r ∈ records, (r.partition, r.port) = r.event.placeAt place number := by
  intro r hr
  obtain ⟨x, hx, rfl⟩ := List.mem_map.mp (hperm.mem_iff.mp hr)
  rw [← h.index_eq hindex hx]
  apply Sighting.eq_placeAt hlocated (h.placed x hx)
  intro entry hentry
  apply hasked
  rw [h.asked]
  exact List.mem_flatMap.mpr ⟨x, hx, List.mem_append_left _ hentry⟩

theorem filterMap_summary (h : q.Lists home s.occurred xs t) : t.filterMap Entry.summary? = [] := by
  rw [List.filterMap_eq_nil_iff, h.asked]
  intro entry hentry
  obtain ⟨x, _, hx⟩ := List.mem_flatMap.mp hentry
  rcases Sighting.eq_of_mem_entries hx with hlookup | ⟨_, rfl⟩
  . obtain ⟨place, rfl⟩ := Sighting.eq_of_mem_lookup hlookup
    rfl
  . rfl

end EventQuery.Lists

namespace Handle

open Operation Sighting

variable {h : Handle} {q : EventQuery} {t : List (Entry deviceInterface)}

theorem check_of_yields_record? (hevents : h.hasEvents = true) (hall : q.allPartitions = true) {event : Event}
    {index : Nat} (hadmits : q.admits index = true) {r : Option EventRecord}
    (hyields : (h.record? q event index).run.Yields t (.ok r)) : EventIndex.check event (.only index) = .ok () := by
  cases hcheck : EventIndex.check event (.only index) with
  | ok _ => rfl
  | error e =>
    unfold record? at hyields
    rw [q.any_index_ne, hadmits, Bool.not_true, if_neg Bool.false_ne_true] at hyields
    rcases yields_placeOf_bind hevents hyields with ⟨_, _, _, hresult⟩ | ⟨partition, port, rest, _, _, hrest⟩
    . cases hresult
    . dsimp only at hrest
      rw [hall, Bool.not_true, Bool.false_and, if_neg Bool.false_ne_true, controlEvent, bind_assoc,
        ofExcept_error_bind hcheck] at hrest
      cases (Program.yields_done.mp hrest).2

theorem checks_of_yields_records (hevents : h.hasEvents = true) (hall : q.allPartitions = true)
    {marked : List (Event × Nat)} {listed : List EventRecord}
    (hyields : (h.records q marked).run.Yields t (.ok listed))
    : ∀ p ∈ marked, q.admits p.2 = true → EventIndex.check p.1 (.only p.2) = .ok () := by
  induction marked generalizing t listed with
  | nil => apply List.forall_mem_nil
  | cons p marked ih =>
    obtain ⟨event, index⟩ := p
    unfold records at hyields
    rcases Program.yields_run_bind.mp hyields with ⟨e, _, he⟩ | ⟨first, t₁, t₂, rfl, hfirst, hrest⟩
    . cases he
    obtain ⟨answer, hothers, hanswer⟩ := yields_bind_pure.mp hrest
    cases answer with
    | error e => cases hanswer
    | ok others =>
      rw [List.forall_mem_cons]
      refine ⟨fun hadmits => check_of_yields_record? hevents hall hadmits hfirst, ih hothers⟩

theorem yields_events_ok (hevents : h.hasEvents = true) (hall : q.allPartitions = true) {s : Summary}
    {records : List EventRecord} (hyields : (h.events s q).run.Yields t (.ok records))
    : ∃ xs, q.Lists h.partition s.occurred xs t ∧ records.Perm (xs.map record) := by
  obtain ⟨answer, hrecords, hanswer⟩ := yields_bind_pure.mp hyields
  cases answer with
  | error e => cases hanswer
  | ok listed =>
    cases hanswer
    have hchecks := checks_of_yields_records hevents hall hrecords
    rcases h.yields_records hevents hchecks hrecords with ⟨xs, hlists, hlisted⟩ | ⟨_, _, _, _, hresult⟩
    . have hselected : xs.filter (selected h.partition q) = xs := by
        rw [List.filter_eq_self]
        intro x _
        unfold selected
        rw [hall, Bool.true_or]
      rw [hselected] at hlisted
      cases hlisted
      exact ⟨xs, hlists, List.mergeSort_perm _ _⟩
    . cases hresult

theorem accepted_of_yields_waitFor {event : Event} {index : EventIndex} {timeout : Option Nanoseconds}
    {result : Option Summary} (hyields : (h.waitFor event index timeout).run.Yields t (.ok result))
    : h.hasEvents = true ∧ EventIndex.check event index = .ok () := by
  cases hrefused : refuseIndex event index with
  | some e =>
    rw [waitFor_of_refused hrefused] at hyields
    cases (Program.yields_done.mp hyields).2
  | none =>
    have haccepted : EventIndex.check event index = .ok () := checkIndex_eq_ok_iff.mpr hrefused
    refine ⟨?_, haccepted⟩
    obtain ⟨marked, hmarked⟩ := Summary.set_of_accepted hrefused
    cases hevents : h.hasEvents with
    | true => rfl
    | false =>
      unfold waitFor at hyields
      rw [ofExcept_ok_bind hmarked, controlEvent_of_accepted hrefused, askEvents, if_neg (by simp [hevents])] at hyields
      cases (Program.yields_done.mp hyields).2

end Handle

namespace Context

open Session

/--
What a wait at a number tells: the summary that ended it shows the event there. All that is marked at this number is
listed at its place, once each.
-/
structure WaitLists (c : Context) (place : Nat → UInt32 × UInt32) (event : Event) (number : Nat)
    (t : List (Entry sessionInterface)) (shown : Summary) (records : List EventRecord) : Prop where
  ended : (t.filterMap Entry.shown?).getLast? = some shown
  pending : shown.Pending event (.only number)
  printed : t.filterMap Entry.printed?
    = c.pieces (Json.list EventRecord.toJson records) (Report.eventLines records)
  listed : ∀ e, shown.Marks e number ↔ ∃ r ∈ records, r.event = e
  placed : ∀ r ∈ records, (r.partition, r.port) = r.event.placeAt place number
  once : (records.map EventRecord.event).Nodup

variable {c : Context} {place : Nat → UInt32 × UInt32} {event : Event} {number : Nat}
  {t : List (Entry sessionInterface)} {shown : Summary} {records : List EventRecord}

theorem WaitLists.shown_eq (h : c.WaitLists place event number t shown records) {only : Summary}
    (honly : t.filterMap Entry.shown? = [only]) : shown = only := by
  have hended := h.ended
  rw [honly] at hended
  exact (Option.some.inj hended).symm

theorem WaitLists.forall_iff (h : c.WaitLists place event number t shown records)
    (P : Option UInt32 × Option UInt32 → Prop)
    : (∀ r ∈ records, P (r.partition, r.port)) ↔ ∀ e, shown.Marks e number → P (e.placeAt place number) := by
  constructor
  . intro hrecords e hmarks
    obtain ⟨r, hr, rfl⟩ := (h.listed e).mp hmarks
    rw [← h.placed r hr]
    exact hrecords r hr
  . intro hmarks r hr
    rw [h.placed r hr]
    exact hmarks r.event ((h.listed r.event).mpr ⟨r, hr, rfl⟩)

/--
The index that a wait is for, by the partition and the port that are given, and what it takes to find it. An event of
the whole switch is waited for whatever is given, and a port function has the number that the driver tells.
-/
inductive Awaited (event : Event)
    : Option UInt32 → Option UInt32 → EventIndex → List (Entry sessionInterface) → Prop where
  | whole (partition port : Option UInt32) : event.kind = .global → Awaited event partition port .all []
  | anywhere : event.kind ≠ .global → Awaited event none none .all []
  | partition (p : UInt32) : event.kind = .partition → Awaited event (some p) none (.only p.toNat) []
  | function (p q : UInt32) (number : Nat) : event.kind = .function →
    Awaited event (some p) (some q) (.only number) [⟨.device (.event (.functionOf p q)), .ok number⟩]

theorem awaited_of_yields_placeToWait {h : Handle} (hevents : h.hasEvents = true) {partition port : Option UInt32}
    {index : EventIndex} (hyields : (placeToWait h event partition port).run.Yields t (.ok index))
    : Awaited event partition port index t := by
  unfold placeToWait at hyields
  cases hkind : event.kind with
  | global =>
    rw [hkind] at hyields
    obtain ⟨rfl, hindex⟩ := Program.yields_done.mp hyields
    cases hindex
    exact .whole partition port hkind
  | partition =>
    rw [hkind] at hyields
    cases port with
    | some q => cases (Program.yields_done.mp hyields).2
    | none =>
      cases partition with
      | none =>
        obtain ⟨rfl, hindex⟩ := Program.yields_done.mp hyields
        cases hindex
        exact .anywhere (by simp [hkind])
      | some p =>
        obtain ⟨rfl, hindex⟩ := Program.yields_done.mp hyields
        cases hindex
        exact .partition p hkind
  | function =>
    rw [hkind] at hyields
    cases partition with
    | none =>
      cases port with
      | some q => cases (Program.yields_done.mp hyields).2
      | none =>
        obtain ⟨rfl, hindex⟩ := Program.yields_done.mp hyields
        cases hindex
        exact .anywhere (by simp [hkind])
    | some p =>
      cases port with
      | none => cases (Program.yields_done.mp hyields).2
      | some q =>
        obtain ⟨number, t₁, t₂, rfl, hasked, hdone⟩ := yields_bind_ok.mp hyields
        obtain ⟨rfl, hindex⟩ := Program.yields_done.mp hdone
        cases hindex
        obtain ⟨asked, rfl, hfound⟩ := yields_perform_ok.mp (yields_within_ok.mp hasked)
        rw [(Handle.yields_askEvents hevents).mp hfound, List.append_nil]
        exact .function p q number hkind

namespace Awaited

variable {partition port : Option UInt32} {index : EventIndex}

theorem filterMap_printed (h : Awaited event partition port index t) : t.filterMap Entry.printed? = [] := by
  cases h <;> rfl

theorem filterMap_shown (h : Awaited event partition port index t) : t.filterMap Entry.shown? = [] := by
  cases h <;> rfl

theorem exists_number {p : UInt32} (h : Awaited event (some p) port index t) (hkind : event.kind ≠ .global)
    : ∃ number, index = .only number
        ∧
      (event.kind = .partition ∧ number = p.toNat
        ∨
      event.kind = .function ∧ ∃ q, port = some q ∧ ⟨.device (.event (.functionOf p q)), .ok number⟩ ∈ t) := by
  cases h with
  | whole _ _ hglobal => exact absurd hglobal hkind
  | partition _ hpartition => exact ⟨_, rfl, .inl ⟨hpartition, rfl⟩⟩
  | function _ q number hfunction => exact ⟨number, rfl, .inr ⟨hfunction, q, rfl, List.mem_singleton_self _⟩⟩

end Awaited

theorem yields_showEvents_ok {h : Handle} {s : Summary} {q : EventQuery}
    (hyields : (c.showEvents h s q).run.Yields t (.ok ()))
    : ∃ records asked rest, t = asked.map Entry.ofDevice ++ rest
        ∧ (h.events s q).run.Yields asked (.ok records)
        ∧ rest.filterMap Entry.printed? = c.pieces (Json.list EventRecord.toJson records) (Report.eventLines records)
        ∧ ∀ entry ∈ rest, entry.1.Plain := by
  obtain ⟨records, t₁, t₂, rfl, hlisted, hout⟩ := yields_bind_ok.mp hyields
  obtain ⟨asked, rfl, hasked⟩ := yields_perform_ok.mp (yields_within_ok.mp hlisted)
  obtain ⟨_, hprinted, _⟩ := shows_output.mp ⟨t₂, hout, rfl, rfl⟩
  exact ⟨records, asked, t₂, rfl, hasked, hprinted, c.output_asksOnly _ _ t₂ _ hout⟩

structure WaitParts where
  handle : Handle
  index : EventIndex
  shown : Summary
  records : List EventRecord
  opening : List (Entry sessionInterface)
  locating : List (Entry sessionInterface)
  waiting : List (Entry deviceInterface)
  listing : List (Entry deviceInterface)
  output : List (Entry sessionInterface)

namespace WaitParts

def transcript (w : WaitParts) : List (Entry sessionInterface) :=
  w.opening ++ (w.locating ++ (w.waiting.map Entry.ofDevice ++ (w.listing.map Entry.ofDevice ++ w.output)))

theorem mem_transcript_of_locating {w : WaitParts} {entry : Entry sessionInterface} (h : entry ∈ w.locating)
    : entry ∈ w.transcript :=
  List.mem_append_right _ (List.mem_append_left _ h)

theorem mem_transcript_of_listing {w : WaitParts} {entry : Entry deviceInterface} (h : entry ∈ w.listing)
    : entry.ofDevice ∈ w.transcript := by
  unfold transcript
  simp only [List.mem_append]
  exact .inr (.inr (.inr (.inl (List.mem_map_of_mem h))))

structure Succeeds (w : WaitParts) (c : Context) (event : Event) (partition port : Option UInt32)
    (timeout : Option Nat) : Prop where
  opened : c.openDevice.run.Yields w.opening (.ok w.handle)
  hasEvents : w.handle.hasEvents = true
  awaited : Awaited event partition port w.index w.locating
  accepted : EventIndex.check event w.index = .ok ()
  waited : (w.handle.waitFor event w.index (timeout.map .ofMilliseconds)).run.Yields w.waiting (.ok (some w.shown))
  listed : (w.handle.events w.shown (queryAfterWait w.index)).run.Yields w.listing (.ok w.records)
  printed : w.output.filterMap Entry.printed?
    = c.pieces (Json.list EventRecord.toJson w.records) (Report.eventLines w.records)
  plain : ∀ entry ∈ w.output, entry.1.Plain

end WaitParts

theorem exists_waitParts_of_yields {partition port : Option UInt32} {timeout : Option Nat}
    (hyields : (c.waitEvent event partition port timeout).run.Yields t (.ok ()))
    : ∃ w : WaitParts, w.Succeeds c event partition port timeout ∧ t = w.transcript := by
  obtain ⟨h, t₁, _, rfl, hopen, hrest⟩ := yields_bind_ok.mp hyields
  obtain ⟨index, t₂, _, rfl, hplace, hrest⟩ := yields_bind_ok.mp hrest
  obtain ⟨ended, _, _, rfl, hwait, hshow⟩ := yields_bind_ok.mp hrest
  obtain ⟨waiting, rfl, hwaited⟩ := yields_perform_ok.mp (yields_within_ok.mp hwait)
  cases ended with
  | none => cases (Program.yields_done.mp hshow).2
  | some shown =>
    obtain ⟨hevents, haccepted⟩ := Handle.accepted_of_yields_waitFor hwaited
    obtain ⟨records, listing, output, rfl, hlisted, hprinted, hplain⟩ := yields_showEvents_ok hshow
    have hawaited := awaited_of_yields_placeToWait hevents hplace
    exact ⟨⟨h, index, shown, records, t₁, t₂, waiting, listing, output⟩,
      ⟨hopen, hevents, hawaited, haccepted, hwaited, hlisted, hprinted, hplain⟩, rfl⟩

namespace WaitParts.Succeeds

variable {w : WaitParts} {partition port : Option UInt32} {timeout : Option Nat}

theorem shows (h : w.Succeeds c event partition port timeout)
    : (w.waiting.filterMap Entry.summary?).getLast? = some w.shown ∧ w.shown.Pending event w.index :=
  ((Handle.yields_waitFor_iff h.hasEvents h.accepted).mp h.waited).summaries.1 w.shown |>.mp rfl

theorem exists_lists (h : w.Succeeds c event partition port timeout)
    : ∃ xs, (queryAfterWait w.index).Lists w.handle.partition w.shown.occurred xs w.listing
        ∧ w.records.Perm (xs.map Sighting.record) := by
  have hall : (queryAfterWait w.index).allPartitions = true := by
    cases w.index <;> rfl
  exact Handle.yields_events_ok h.hasEvents hall h.listed

theorem filterMap_printed (h : w.Succeeds c event partition port timeout)
    : w.transcript.filterMap Entry.printed?
        =
      c.pieces (Json.list EventRecord.toJson w.records) (Report.eventLines w.records) := by
  have hopening : w.opening.filterMap Entry.printed? = [] :=
    (quiet_of_shows_openDevice ⟨w.opening, h.opened, rfl, rfl⟩).2
  unfold transcript
  simp only [List.filterMap_append, hopening, h.awaited.filterMap_printed, Entry.filterMap_printed_ofDevice, List.nil_append]
  exact h.printed

theorem filterMap_shown (h : w.Succeeds c event partition port timeout)
    : w.transcript.filterMap Entry.shown? = w.waiting.filterMap Entry.summary? := by
  obtain ⟨xs, hlists, _⟩ := h.exists_lists
  have hopening : w.opening.filterMap Entry.shown? = [] :=
    Entry.filterMap_shown_of_plain (c.openDevice_asksOnly w.opening _ h.opened)
  unfold transcript
  simp only [List.filterMap_append, hopening, h.awaited.filterMap_shown, Entry.filterMap_shown_ofDevice,
    hlists.filterMap_summary, Entry.filterMap_shown_of_plain h.plain, List.nil_append, List.append_nil]

end WaitParts.Succeeds

theorem waitLists_of_yields (hlocated : Located place t) (hkind : event.kind ≠ .global) {partition : UInt32}
    {port : Option UInt32} {timeout : Option Nat}
    (hyields : (c.waitEvent event (some partition) port timeout).run.Yields t (.ok ()))
    : ∃ number shown records, c.WaitLists place event number t shown records
        ∧ (event.kind = .partition ∧ number = partition.toNat
            ∨ event.kind = .function ∧ ∃ q, port = some q ∧ place number = (partition, q)) := by
  obtain ⟨w, hw, rfl⟩ := exists_waitParts_of_yields hyields
  obtain ⟨xs, hlists, hperm⟩ := hw.exists_lists
  obtain ⟨number, hindex, hnumber⟩ := hw.awaited.exists_number hkind
  obtain ⟨hlast, hpending⟩ := hw.shows
  rw [hindex] at hlists hpending
  refine ⟨number, w.shown, w.records, ⟨?_, hpending, hw.filterMap_printed, hlists.marks_iff rfl hperm, ?_,
    hlists.nodup_events rfl hperm⟩, ?_⟩
  . rw [hw.filterMap_shown]
    exact hlast
  . exact hlists.eq_placeAt rfl hperm hlocated fun _ => WaitParts.mem_transcript_of_listing
  . rcases hnumber with hpartition | ⟨hfunction, q, hport, hasked⟩
    . exact .inl hpartition
    . have hmem := WaitParts.mem_transcript_of_locating hasked
      exact .inr ⟨hfunction, q, hport, beq_iff_eq.mp (hlocated _ hmem)⟩

end Context

/--
A wait at a partition or a port that succeeds lists all that is marked at the number of the partition or of the port
function, whatever its kind. So its records are all of the partition exactly if nothing else is marked at this number
but events of port functions of the partition, and all of the port exactly if only events of port functions are.
-/
theorem wait_lists_every_kind_of_event (c : Context) {event : Event} (hkind : event.kind ≠ .global) (partition : UInt32)
    (port : Option UInt32) (timeout : Option Nat) (outside : Handler sessionInterface σ) (s : σ)
    (hok : (c.waitEvent event (some partition) port timeout).result outside s = .ok ()) {place : Nat → UInt32 × UInt32}
    (hlocated : Located place ((c.waitEvent event (some partition) port timeout).run.transcript outside s))
    : ∃ number shown records,
        c.WaitLists place event number ((c.waitEvent event (some partition) port timeout).run.transcript outside s) shown
          records
          ∧
        (event.kind = .partition →
          number = partition.toNat
            ∧
          ((∀ r ∈ records, r.partition = some partition)
              ↔
            ∀ e, shown.Marks e number → e.kind = .partition ∨ e.kind = .function ∧ (place number).1 = partition))
          ∧
        (event.kind = .function →
          ∃ q, port = some q ∧ place number = (partition, q)
            ∧
          ((∀ r ∈ records, r.partition = some partition ∧ r.port = some q)
              ↔
            ∀ e, shown.Marks e number → e.kind = .function)) := by
  have hyields := Program.yields_transcript outside (c.waitEvent event (some partition) port timeout).run s
  rw [show ((c.waitEvent event (some partition) port timeout).run.run outside s).1 = .ok () from hok] at hyields
  obtain ⟨number, shown, records, hlists, hnumber⟩ := Context.waitLists_of_yields hlocated hkind hyields
  refine ⟨number, shown, records, hlists, ?_, ?_⟩
  . intro hpartition
    rcases hnumber with ⟨_, rfl⟩ | ⟨hfunction, _⟩
    . refine ⟨rfl, ?_⟩
      rw [hlists.forall_iff fun spot => spot.1 = some partition]
      refine forall_congr' fun e => imp_congr_right fun _ => ?_
      unfold Event.placeAt
      cases e.kind <;> simp
    . rw [hpartition] at hfunction
      cases hfunction
  . intro hfunction
    rcases hnumber with ⟨hpartition, _⟩ | ⟨_, q, hport, hplace⟩
    . rw [hpartition] at hfunction
      cases hfunction
    . refine ⟨q, hport, hplace, ?_⟩
      rw [hlists.forall_iff fun spot => spot.1 = some partition ∧ spot.2 = some q]
      refine forall_congr' fun e => imp_congr_right fun _ => ?_
      unfold Event.placeAt
      cases e.kind <;> simp [hplace]

open Simulation in
/--
The link at port 5 of partition 1 changes while partition 2 is reset. The port function has the number 2, so the reset
is listed as well.
-/
theorem wait_at_port_lists_partition_event
    : let pending : Summary := { Summary.empty with
        partitions := Summary.empty.partitions.set 2 1
        functions := Summary.empty.functions.set 2 0x1000 }
      let script : EventScript := { waits := [.ok true], summaries := [.ok pending], places := [(2, 1, 5)] }
      let switch : Switch := { events := .reports script }
      let console : Console := { switch, opening := fun name => .ok (switch.handle name 0 .gen4) }
      let c : Context := ⟨some "switchtec0", 5, true, false⟩
      let place : Nat → UInt32 × UInt32 := fun number => if number = 2 then (1, 5) else (0, 0)
      let session := c.waitEvent .linkState (some 1) (some 5) (some 1000)
      let t := session.run.transcript Console.answer console
      session.result Console.answer console = .ok ()
        ∧
      Located place t
        ∧
      ∃ number shown records,
        c.WaitLists place .linkState number t shown records
          ∧
        ¬ ∀ r ∈ records, r.partition = some 1 ∧ r.port = some 5 := by
  intro pending script switch console c place session t
  have hok : session.result Console.answer console = .ok () := by
    decide +kernel
  have hshown : t.filterMap Entry.shown? = [pending] := by
    decide +kernel
  have hlocated : Located place t := by
    rw [Located, ← List.all_eq_true]
    decide +kernel
  obtain ⟨number, shown, records, hlists, _, hfunction⟩ :=
    wait_lists_every_kind_of_event c (by decide) 1 (some 5) (some 1000) Console.answer console hok hlocated
  obtain ⟨q, hport, hplace, hiff⟩ := hfunction rfl
  cases hport
  refine ⟨hok, hlocated, number, shown, records, hlists, ?_⟩
  rw [hiff]
  intro hmarked
  have hnumber : number = 2 := by
    apply Classical.byContradiction
    intro hne
    rw [show place number = (0, 0) from if_neg hne] at hplace
    cases hplace
  have hreset : shown.Marks .partitionReset number := by
    rw [hlists.shown_eq hshown, hnumber]
    exact ⟨1, rfl, rfl⟩
  cases hmarked .partitionReset hreset

open Simulation in
/--
A switch wakes up for a reset of partition 0 while an event of the whole switch is pending. Both are listed.
-/
theorem wait_at_partition_lists_global_event
    : ¬ ∀ (c : Context) (console : Console) (partition : UInt32) (place : Nat → UInt32 × UInt32) (number : Nat)
        (shown : Summary) (records : List EventRecord),
        let session := c.waitEvent .partitionReset (some partition) none none
        let t := session.run.transcript Console.answer console
        session.result Console.answer console = .ok () → Located place t →
          c.WaitLists place .partitionReset number t shown records → ∀ r ∈ records, r.partition = some partition := by
  intro h
  let pending : Summary := { Summary.empty with global := 1, partitions := 1 :: List.replicate 47 0 }
  let switch : Switch := { events := .reports { waits := [.ok true], summaries := [.ok pending] } }
  let console : Console := { switch, opening := fun name => .ok (switch.handle name 0 .gen4) }
  let c : Context := ⟨some "switchtec0", 5, true, false⟩
  let session := c.waitEvent .partitionReset (some 0) none none
  let place : Nat → UInt32 × UInt32 := fun _ => (0, 0)
  have hok : session.result Console.answer console = .ok () := by
    decide +kernel
  have hshown : (session.run.transcript Console.answer console).filterMap Entry.shown? = [pending] := by
    decide +kernel
  have hlocated : Located place (session.run.transcript Console.answer console) := by
    rw [Located, ← List.all_eq_true]
    decide +kernel
  have hyields := Program.yields_transcript Console.answer session.run console
  rw [show (session.run.run Console.answer console).1 = .ok () from hok] at hyields
  obtain ⟨number, shown, records, hlists, hnumber⟩ := Context.waitLists_of_yields hlocated (by decide) hyields
  rcases hnumber with ⟨_, rfl⟩ | ⟨hfunction, _⟩
  . have hmarks : shown.Marks .stackError 0 := by
      rw [hlists.shown_eq hshown]
      exact ⟨1, rfl, rfl⟩
    obtain ⟨r, hr, hevent⟩ := (hlists.listed .stackError).mp hmarks
    have hplaced := hlists.placed r hr
    have hpartition := h c console 0 place _ shown records hok hlocated hlists r hr
    rw [hevent] at hplaced
    rw [(Prod.mk.inj hplaced).1] at hpartition
    cases hpartition
  . cases hfunction

end PcieSwitch
