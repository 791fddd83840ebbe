import PcieSwitch.Proofs.EventPlaces
import PcieSwitch.Proofs.ListedRecords

/-!
This module contains that the command which waits for an event prints a record of this event, at the place that it was
told, and that it clears nothing but the event, and that only before the wait.
-/

namespace PcieSwitch

def SessionCall.control? : SessionCall → Option (Event × EventIndex × UInt32)
  | .device (.event (.control event index flags)) => some (event, index, flags)
  | _ => none

def SessionCall.LeavesEvents (c : SessionCall) : Prop :=
  ∀ event index flags, c.control? = some (event, index, flags) → flags = 0

def controls (t : List (Entry sessionInterface)) : List (Event × EventIndex × UInt32) :=
  t.filterMap fun entry => entry.1.control?

theorem controls_append (t u : List (Entry sessionInterface)) : controls (t ++ u) = controls t ++ controls u :=
  List.filterMap_append

theorem controls_eq_nil {t : List (Entry sessionInterface)} (h : ∀ entry ∈ t, entry.1.control? = none)
    : controls t = [] :=
  List.filterMap_eq_nil_iff.mpr h

theorem SessionCall.Plain.control?_eq_none {c : SessionCall} (h : c.Plain) : c.control? = none := by
  cases c with
  | device => cases h
  | _ => rfl

theorem SessionCall.Plain.leavesEvents {c : SessionCall} (h : c.Plain) : c.LeavesEvents := by
  intro event index flags hcontrol
  rw [h.control?_eq_none] at hcontrol
  cases hcontrol

theorem flags_of_mem_controls {t : List (Entry sessionInterface)} (h : ∀ entry ∈ t, entry.1.LeavesEvents)
    : ∀ x ∈ controls t, x.2.2 = 0 := by
  rintro ⟨event, index, flags⟩ hx
  obtain ⟨entry, hentry, hcontrol⟩ := List.mem_filterMap.mp hx
  exact h entry hentry event index flags hcontrol

/--
The driver told the place and the count of a record, as that of its event at a number. It was not told to clear it.
-/
structure EventRecord.ToldAt (r : EventRecord) (number : Nat) (t : List (Entry sessionInterface)) : Prop where
  counted : ⟨.device (.event (.control r.event (.only number) 0)), .ok r.count⟩ ∈ t
  placed : match r.event.kind with
    | .global => r.partition = none ∧ r.port = none
    | .partition => r.partition = some (UInt32.ofNat number) ∧ r.port = none
    | .function => ∃ partition port,
      ⟨.device (.event (.portOf number)), .ok (partition, port)⟩ ∈ t
        ∧ r.partition = some partition ∧ r.port = some port

theorem EventRecord.ToldAt.eq_of_located {r : EventRecord} {number : Nat} {t : List (Entry sessionInterface)}
    (h : r.ToldAt number t) (hkind : r.event.kind = .function) {place : Nat → UInt32 × UInt32}
    (hlocated : Located place t) : r.partition = some (place number).1 ∧ r.port = some (place number).2 := by
  have hplaced := h.placed
  rw [hkind] at hplaced
  obtain ⟨partition, port, hasked, hpartition, hport⟩ := hplaced
  have hplace : place number = (partition, port) := beq_iff_eq.mp (hlocated _ hasked)
  rw [hplace]
  exact ⟨hpartition, hport⟩

namespace Context

variable {event : Event}

theorem clears_queryAfterWait (index : EventIndex) (event : Event) : (queryAfterWait index).clears event = false := by
  unfold EventQuery.clears queryAfterWait
  cases index <;> simp

theorem Awaited.exists_marks {partition port : Option UInt32} {index : EventIndex} {t : List (Entry sessionInterface)}
    (h : Awaited event partition port index t) {s : Summary} (hpending : s.Pending event index)
    : ∃ number, s.Marks event number ∧ (queryAfterWait index).admits number = true := by
  unfold Summary.Pending at hpending
  cases h with
  | whole _ _ hkind =>
    rw [hkind] at hpending
    refine ⟨0, ⟨s.global.toNat, ?_, hpending⟩, rfl⟩
    rw [hkind]
    rfl
  | anywhere hkind =>
    cases hevent : event.kind with
    | global => exact absurd hevent hkind
    | partition | function =>
      rw [hevent] at hpending
      obtain ⟨number, _, hmarks⟩ := hpending
      exact ⟨number, hmarks, rfl⟩
  | partition p hkind =>
    rw [hkind] at hpending
    exact ⟨p.toNat, hpending, beq_self_eq_true _⟩
  | function _ _ number hkind =>
    rw [hkind] at hpending
    exact ⟨number, hpending, beq_self_eq_true _⟩

namespace WaitParts.Succeeds

variable {w : WaitParts} {c : Context} {partition port : Option UInt32} {timeout : Option Nat}

theorem toldAt_of_mem {xs : List Sighting}
    (hlists : (queryAfterWait w.index).Lists w.handle.partition w.shown.occurred xs w.listing) {x : Sighting}
    (hx : x ∈ xs) : x.record.ToldAt x.index w.transcript := by
  have hentries : ∀ entry ∈ x.entries w.handle.partition (queryAfterWait w.index), entry.ofDevice ∈ w.transcript := by
    intro entry hentry
    apply WaitParts.mem_transcript_of_listing
    rw [hlists.asked]
    exact List.mem_flatMap.mpr ⟨x, hx, hentry⟩
  have hselected : x.selected w.handle.partition (queryAfterWait w.index) = true := by
    unfold Sighting.selected
    cases w.index <;> rfl
  constructor
  . apply hentries ⟨.event (.control x.event (.only x.index) 0), .ok x.count⟩
    unfold Sighting.entries Sighting.control
    rw [if_pos hselected, clears_queryAfterWait, if_neg Bool.false_ne_true]
    exact List.mem_append_right _ (List.mem_singleton_self _)
  . have hplaced := hlists.placed x hx
    unfold Sighting.Placed at hplaced
    unfold Sighting.record
    dsimp only
    cases hkind : x.event.kind with
    | global | partition =>
      rw [hkind] at hplaced
      exact hplaced
    | function =>
      rw [hkind] at hplaced
      obtain ⟨p, hp⟩ := Option.isSome_iff_exists.mp hplaced.1
      obtain ⟨q, hq⟩ := Option.isSome_iff_exists.mp hplaced.2
      refine ⟨p, q, hentries ⟨.event (.portOf x.index), .ok (p, q)⟩ ?_, hp, hq⟩
      unfold Sighting.entries Sighting.lookup
      rw [hkind, hp, hq]
      exact List.mem_append_left _ (List.mem_singleton_self _)

theorem exists_record (h : w.Succeeds c event partition port timeout)
    : ∃ number, ∃ r ∈ w.records,
        r.event = event ∧ r.ToldAt number w.transcript ∧ (queryAfterWait w.index).admits number = true := by
  obtain ⟨xs, hlists, hperm⟩ := h.exists_lists
  obtain ⟨number, hmarks, hadmits⟩ := h.awaited.exists_marks h.shows.2
  have hlisted : (event, number) ∈ xs.map Sighting.pair := by
    rw [hlists.all, List.mem_filter]
    exact ⟨Summary.mem_occurred.mpr hmarks, hadmits⟩
  obtain ⟨x, hx, hpair⟩ := List.mem_map.mp hlisted
  cases hpair
  exact ⟨x.index, x.record, hperm.mem_iff.mpr (List.mem_map_of_mem hx), rfl, toldAt_of_mem hlists hx, hadmits⟩

end WaitParts.Succeeds
end Context

namespace Handle

variable {h : Handle}

theorem controls_of_yields_waitFor {event : Event} {index : EventIndex} {timeout : Option Nanoseconds}
    {t : List (Entry deviceInterface)} {result : Except Error (Option Summary)}
    (hyields : (h.waitFor event index timeout).run.Yields t result)
    : controls (t.map Entry.ofDevice) = [] ∧ (∃ e, result = .error e)
        ∨
      controls (t.map Entry.ofDevice) = [(event, index, EventFlags.clear ||| EventFlags.enablePoll)] := by
  cases hrefused : refuseIndex event index with
  | some e =>
    rw [waitFor_of_refused hrefused] at hyields
    obtain ⟨rfl, rfl⟩ := Program.yields_done.mp hyields
    exact .inl ⟨rfl, e, rfl⟩
  | none =>
    cases hevents : h.hasEvents with
    | false =>
      obtain ⟨marked, hmarked⟩ := Summary.set_of_accepted hrefused
      unfold waitFor at hyields
      rw [Operation.ofExcept_ok_bind hmarked, controlEvent_of_accepted hrefused, askEvents,
        if_neg (by simp [hevents])] at hyields
      obtain ⟨rfl, rfl⟩ := Program.yields_done.mp hyields
      exact .inl ⟨rfl, _, rfl⟩
    | true =>
      have haccepted : EventIndex.check event index = .ok () := checkIndex_eq_ok_iff.mpr hrefused
      obtain ⟨answer, rest, rfl, hrest⟩ := ((yields_waitFor_iff hevents haccepted).mp hyields).control
      have hnone : controls (rest.map Entry.ofDevice) = [] := by
        apply controls_eq_nil
        rw [List.forall_mem_map]
        rintro ⟨call, answer⟩ hentry
        cases call with
        | event call =>
          cases call with
          | control event index flags => exact absurd hentry (hrest event index flags answer)
          | _ => rfl
        | _ => rfl
      refine .inr ?_
      rw [List.map_cons, ← List.singleton_append, controls_append, hnone]
      rfl

theorem leavesEvents_askEvents {call : EventCall} (hcall : SessionCall.LeavesEvents (.device (.event call)))
    : Program.AsksOnly (fun c => SessionCall.LeavesEvents (.device c)) (h.askEvents call).run := by
  unfold askEvents
  split
  . exact Program.AsksOnly.call (I := deviceInterface) hcall
  . apply Program.AsksOnly.pure

theorem leavesEvents_record? {q : EventQuery} (hq : ∀ event, q.clears event = false) (event : Event) (index : Nat)
    : Program.AsksOnly (fun c => SessionCall.LeavesEvents (.device c)) (h.record? q event index).run := by
  have hplace : Program.AsksOnly (fun c => SessionCall.LeavesEvents (.device c)) (h.placeOf event index).run := by
    unfold placeOf
    split
    . apply Program.AsksOnly.pure
    . apply Program.AsksOnly.pure
    . have hportOf : SessionCall.LeavesEvents (.device (.event (.portOf index))) := by
        rintro _ _ _ ⟨⟩
      exact (leavesEvents_askEvents hportOf).run_bind fun _ _ _ => Program.AsksOnly.pure _
  have hflags : SessionCall.LeavesEvents (.device (.event (.control event (.only index) (q.flags event)))) := by
    rintro _ _ _ ⟨⟩
    rw [q.flags_eq, hq, if_neg Bool.false_ne_true]
  unfold record?
  split
  . apply Program.AsksOnly.pure
  . apply hplace.run_bind
    intro place _ _
    dsimp only
    split
    . apply Program.AsksOnly.pure
    . apply Program.AsksOnly.run_bind
      . exact Program.AsksOnly.check_bind fun _ => leavesEvents_askEvents hflags
      . intro _ _ _
        apply Program.AsksOnly.pure

theorem leavesEvents_events {q : EventQuery} (hq : ∀ event, q.clears event = false) (s : Summary)
    : Program.AsksOnly (fun c => SessionCall.LeavesEvents (.device c)) (h.events s q).run := by
  have hrecords : ∀ marked, Program.AsksOnly (fun c => SessionCall.LeavesEvents (.device c)) (h.records q marked).run := by
    intro marked
    induction marked with
    | nil => apply Program.AsksOnly.pure
    | cons mark rest ih =>
      apply (leavesEvents_record? hq mark.1 mark.2).run_bind
      intro first _ _
      exact ih.run_bind fun _ _ _ => Program.AsksOnly.pure _
  exact (hrecords s.occurred).run_bind fun _ _ _ => Program.AsksOnly.pure _

end Handle

namespace Context

open Session

theorem controls_of_yields_placeToWait {h : Handle} {event : Event} {partition port : Option UInt32}
    {t : List (Entry sessionInterface)} {result : Except Failure EventIndex}
    (hyields : (placeToWait h event partition port).run.Yields t result) : controls t = [] := by
  have hasks : AsksOnly (fun c => c.control? = none) (placeToWait h event partition port) := by
    unfold placeToWait
    split
    . apply AsksOnly.pure
    . apply AsksOnly.throw
    . apply AsksOnly.pure
    . apply AsksOnly.pure
    . apply AsksOnly.pure
    . refine AsksOnly.bind (AsksOnly.within _ (AsksOnly.ofDevice (AsksOnly.onDevice ?_))) fun _ => AsksOnly.pure _
      unfold Handle.functionOf Handle.askEvents
      split
      . exact Program.AsksOnly.call (I := deviceInterface) rfl
      . apply Program.AsksOnly.pure
    . apply AsksOnly.throw
  exact controls_eq_nil (hasks t result hyields)

theorem leavesEvents_showEvents (c : Context) (h : Handle) (s : Summary) (index : EventIndex)
    : AsksOnly SessionCall.LeavesEvents (c.showEvents h s (queryAfterWait index)) := by
  apply AsksOnly.bind
  . exact AsksOnly.within _ (AsksOnly.ofDevice (AsksOnly.onDevice
      (Handle.leavesEvents_events (clears_queryAfterWait index) s)))
  . intro records
    exact (c.output_asksOnly _ _).mono fun _ => SessionCall.Plain.leavesEvents

theorem controls_of_yields_waitEvent {c : Context} {event : Event} {partition port : Option UInt32}
    {timeout : Option Nat} {t : List (Entry sessionInterface)} {result : Except Failure Unit}
    (hyields : (c.waitEvent event partition port timeout).run.Yields t result)
    : controls t = [] ∨ ∃ index rest,
        controls t = (event, index, EventFlags.clear ||| EventFlags.enablePoll) :: rest ∧ ∀ x ∈ rest, x.2.2 = 0 := by
  have hopened : ∀ {t r}, c.openDevice.run.Yields t r → controls t = [] := by
    intro t r hopen
    exact controls_eq_nil fun entry hentry => (c.openDevice_asksOnly t r hopen entry hentry).control?_eq_none
  rcases Program.yields_run_bind.mp hyields with ⟨e, hfail, _⟩ | ⟨h, t₁, _, rfl, hopen, hrest⟩
  . exact .inl (hopened hfail)
  rcases Program.yields_run_bind.mp hrest with ⟨e, hfail, _⟩ | ⟨index, t₂, _, rfl, hplace, hrest⟩
  . rw [controls_append, hopened hopen, controls_of_yields_placeToWait hfail]
    exact .inl rfl
  have hwaited : ∀ {t r}, (within "event-wait" (perform
      (h.waitFor event index (timeout.map Nanoseconds.ofMilliseconds)))).run.Yields t r →
        controls t = [] ∧ (∃ e, r = .error e)
          ∨
        controls t = [(event, index, EventFlags.clear ||| EventFlags.enablePoll)] := by
    intro t r hwait
    obtain ⟨_, hperform, rfl⟩ := yields_within.mp hwait
    obtain ⟨asked, _, rfl, hasked, rfl⟩ := yields_perform.mp hperform
    rcases Handle.controls_of_yields_waitFor hasked with ⟨hnone, e, rfl⟩ | hone
    . exact .inl ⟨hnone, _, rfl⟩
    . exact .inr hone
  rw [controls_append, controls_append, hopened hopen, controls_of_yields_placeToWait hplace, List.nil_append,
    List.nil_append]
  rcases Program.yields_run_bind.mp hrest with ⟨e, hfail, _⟩ | ⟨ended, t₃, t₄, rfl, hwait, hshow⟩
  . rcases hwaited hfail with ⟨hnone, _⟩ | hone
    . exact .inl hnone
    . exact .inr ⟨index, [], hone, List.forall_mem_nil _⟩
  . rcases hwaited hwait with ⟨_, _, he⟩ | hone
    . cases he
    . have hleaves : ∀ entry ∈ t₄, entry.1.LeavesEvents := by
        cases ended with
        | none =>
          rw [(Program.yields_done.mp hshow).1]
          apply List.forall_mem_nil
        | some shown => exact c.leavesEvents_showEvents h shown index t₄ result hshow
      refine .inr ⟨index, controls t₄, ?_, flags_of_mem_controls hleaves⟩
      rw [controls_append, hone]
      rfl

end Context

/--
A wait for an event that succeeds prints a record of this event: that of the partition, or of the port function, that
was asked about, if there is one. However a wait ends, it clears nothing but the event, once and before all else: the
listing leaves all events as they are.
-/
theorem awaited_event_is_listed (c : Context) (event : Event) (partition port : Option UInt32) (timeout : Option Nat)
    (outside : Handler sessionInterface σ) (s : σ)
    : let session := c.waitEvent event partition port timeout
      let t := session.run.transcript outside s
      (session.result outside s = .ok () →
        ∃ number records, ∃ r ∈ records,
          t.filterMap Entry.printed? = c.pieces (Json.list EventRecord.toJson records) (Report.eventLines records)
            ∧
          r.PrintedBy c (t.filterMap Entry.printed?)
            ∧
          r.event = event ∧ r.ToldAt number t
            ∧
          (event.kind = .partition → ∀ p, partition = some p → number = p.toNat ∧ r.partition = some p)
            ∧
          (event.kind = .function → ∀ p q, partition = some p → port = some q →
            ⟨.device (.event (.functionOf p q)), .ok number⟩ ∈ t
              ∧
            ∀ place, Located place t → r.partition = some p ∧ r.port = some q))
        ∧
      (controls t = []
        ∨
      ∃ index rest,
        controls t = (event, index, EventFlags.clear ||| EventFlags.enablePoll) :: rest ∧ ∀ x ∈ rest, x.2.2 = 0) := by
  intro session t
  have hyields : session.run.Yields t (session.result outside s) := Program.yields_transcript outside session.run s
  refine ⟨?_, Context.controls_of_yields_waitEvent hyields⟩
  intro hok
  rw [hok] at hyields
  obtain ⟨w, hw, ht⟩ := Context.exists_waitParts_of_yields hyields
  obtain ⟨number, r, hr, hevent, htold, hadmits⟩ := hw.exists_record
  have hshown : r.PrintedBy c (w.transcript.filterMap Entry.printed?) := by
    rw [hw.filterMap_printed]
    exact EventRecord.printedBy_pieces (Handle.listed_of_yields_events hw.listed).1 hr
  rw [ht]
  refine ⟨number, w.records, r, hr, hw.filterMap_printed, hshown, hevent, htold, ?_, ?_⟩
  . rintro hkind p rfl
    obtain ⟨i, hindex, ⟨_, hi⟩ | ⟨hfunction, _⟩⟩ := hw.awaited.exists_number (by simp [hkind])
    . rw [hindex] at hadmits
      obtain rfl : i = number := beq_iff_eq.mp hadmits
      have hplaced := htold.placed
      rw [hevent, hkind, hi] at hplaced
      refine ⟨hi, ?_⟩
      rw [hplaced.1, UInt32.ofNat_toNat]
    . rw [hkind] at hfunction
      cases hfunction
  . rintro hkind p q rfl rfl
    obtain ⟨i, hindex, ⟨hpartition, _⟩ | ⟨_, _, hport, hasked⟩⟩ := hw.awaited.exists_number (by simp [hkind])
    . rw [hkind] at hpartition
      cases hpartition
    . rw [hindex] at hadmits
      obtain rfl : i = number := beq_iff_eq.mp hadmits
      cases hport
      have hmem := Context.WaitParts.mem_transcript_of_locating hasked
      refine ⟨hmem, ?_⟩
      intro place hlocated
      have hplace : place i = (p, q) := beq_iff_eq.mp (hlocated _ hmem)
      obtain ⟨hp, hq⟩ := htold.eq_of_located (by rw [hevent, hkind]) hlocated
      rw [hp, hq, hplace]
      exact ⟨rfl, rfl⟩

open Simulation in
/--
A wait for the link at port 5 of partition 1 ends while partition 2 is reset. Its record is that of this port, and nothing
is cleared after the wait. The line of the record stands under this port, and its object stands first in the array.
-/
theorem link_event_is_listed_at_its_port
    : let pending : Summary := { Summary.empty with
        partitions := Summary.empty.partitions.set 2 1
        functions := Summary.empty.functions.set 2 0x1000 }
      let script : EventScript :=
        { waits := [.ok true], summaries := [.ok pending], counts := [.ok 0, .ok 2, .ok 7], places := [(2, 1, 5)] }
      let switch : Switch := { events := .reports script }
      let console : Console := { switch, opening := fun name => .ok (switch.handle name 0 .gen4) }
      let c : Context := ⟨some "switchtec0", 5, true, false⟩
      let plain : Context := ⟨some "switchtec0", 5, false, false⟩
      let place : Nat → UInt32 × UInt32 := fun number => if number = 2 then (1, 5) else (0, 0)
      let session := c.waitEvent .linkState (some 1) (some 5) none
      let t := session.run.transcript Console.answer console
      let listing := plain.waitEvent .linkState (some 1) (some 5) none
      let lines := (listing.run.transcript Console.answer console).filterMap Entry.printed?
      session.result Console.answer console = .ok ()
        ∧
      Located place t
        ∧
      (∃ number records, ∃ r ∈ records,
        t.filterMap Entry.printed? = c.pieces (Json.list EventRecord.toJson records) (Report.eventLines records)
          ∧
        r.PrintedBy c (t.filterMap Entry.printed?)
          ∧
        r.event = .linkState ∧ r.ToldAt number t ∧ r.partition = some 1 ∧ r.port = some 5)
        ∧
      controls t = [(.linkState, .only 2, 3), (.partitionReset, .only 2, 0), (.linkState, .only 2, 0)]
        ∧
      (t.filterMap Entry.printed?).flatten = Bytes.ofString
        ("[\n"
          ++ "  \x7b\n    \"partition\": 1,\n    \"port\": 5,\n    \"event\": \"LinkState\",\n    \"count\": 7\n  \x7d,\n"
          ++ "  \x7b\n    \"partition\": 2,\n    \"port\": null,\n    \"event\": \"PartReset\",\n    \"count\": 2\n  \x7d\n"
          ++ "]\n")
        ∧
      (∃ r : EventRecord, r.event = .linkState ∧ r.PrintedBy plain lines)
        ∧
      lines = ["Partition 1 Events:\n", "    Port 5:\n", "\tLINK_STATE            \t7   \tLink State Change Event\n",
        "Partition 2 Events:\n", "\tPART_RESET            \t2   \tPartition Reset\n"].map Bytes.ofString := by
  intro pending script switch console c plain place session t listing lines
  have hok : session.result Console.answer console = .ok () := by
    decide +kernel
  have hlocated : Located place t := by
    rw [Located, ← List.all_eq_true]
    decide +kernel
  have hcontrols : controls t = [(.linkState, .only 2, 3), (.partitionReset, .only 2, 0), (.linkState, .only 2, 0)] := by
    decide +kernel
  obtain ⟨hlisted, _⟩ := awaited_event_is_listed c .linkState (some 1) (some 5) none Console.answer console
  obtain ⟨number, records, r, hr, hpieces, hprinted, hevent, htold, _, hfunction⟩ := hlisted hok
  obtain ⟨hp, hq⟩ := (hfunction rfl 1 5 rfl rfl).2 place hlocated
  obtain ⟨hplain, _⟩ := awaited_event_is_listed plain .linkState (some 1) (some 5) none Console.answer console
  have hplainOk : listing.result Console.answer console = .ok () := by
    -- an insertion sort can be evaluated, unlike a merge sort
    unfold listing Context.waitEvent Context.showEvents Handle.events
    simp only [EventRecord.mergeSort_eq_insertionSort]
    decide +kernel
  obtain ⟨_, _, r', _, _, hprinted', hevent', _⟩ := hplain hplainOk
  refine ⟨hok, hlocated, ⟨number, records, r, hr, hpieces, hprinted, hevent, htold, hp, hq⟩, hcontrols, ?_,
    ⟨r', hevent', hprinted'⟩, ?_⟩
  . unfold t session Context.waitEvent Context.showEvents Handle.events
    simp only [EventRecord.mergeSort_eq_insertionSort]
    decide +kernel
  . unfold lines listing Context.waitEvent Context.showEvents Handle.events
    simp only [EventRecord.mergeSort_eq_insertionSort]
    decide +kernel

end PcieSwitch
