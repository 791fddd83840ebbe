import PcieSwitch.Report.Events
import PcieSwitch.Proofs.EventListing
import PcieSwitch.Proofs.TextOutlines

/-!
This module contains the headings between the events of a listing. A record brings along the headings of its partition and
of its port as far as they are not those of the record before it. In the order of a listing this is enough: what is absent
comes first, so no record without a port follows one with a port under the same heading.
-/

namespace PcieSwitch
namespace Report

open Text

theorem depth_partitionTitle (partition : Option UInt32) : depth (partitionTitle partition) = 0 := by
  cases partition with
  | none => rfl
  | some p =>
    unfold partitionTitle
    simp only [String.append_assoc]
    rw [depth_append (by decide)]
    rfl

theorem depth_of_mem_portTitle {port : Option UInt32} {title : String} (h : title ∈ portTitle port) : depth title = 1 := by
  cases port with
  | none => cases h
  | some p =>
    obtain rfl := List.mem_singleton.mp h
    split
    . rfl
    . simp only [String.append_assoc]
      rw [depth_append (by decide)]
      rfl

theorem depth_eventLine (r : EventRecord) : depth (eventLine r) = 2 := by
  unfold eventLine
  simp only [String.append_assoc]
  rw [depth_append (by decide)]
  rfl

theorem newline_not_mem_partitionTitle (partition : Option UInt32) : '\n' ∉ (partitionTitle partition).toList := by
  cases partition with
  | none => decide
  | some p =>
    have hnumber : '\n' ∉ (toString p).toList := not_mem_repr rfl p.toNat
    simp [partitionTitle, hnumber, toString_string]

theorem newline_not_mem_portTitle {port : Option UInt32} {title : String} (h : title ∈ portTitle port)
    : '\n' ∉ title.toList := by
  cases port with
  | none => cases h
  | some p =>
    have hnumber : '\n' ∉ (toString p).toList := not_mem_repr rfl p.toNat
    obtain rfl := List.mem_singleton.mp h
    split
    . decide
    . simp [hnumber, toString_string]

theorem newline_not_mem_eventLine (r : EventRecord) : '\n' ∉ (eventLine r).toList := by
  have hcount : '\n' ∉ (toString r.count).toList := not_mem_repr rfl r.count.toNat
  have hname : '\n' ∉ r.event.driverName.toList ∧ '\n' ∉ r.event.description.toList := by
    cases r.event <;> decide +kernel
  simp [eventLine, left, hcount, hname]

def headingsOf (r : EventRecord) : List String :=
  portTitle r.port ++ [partitionTitle r.partition]

def headingEntries (last : Option EventPlace) (r : EventRecord) : List (List String × String) :=
  (if last.map Prod.fst = some r.partition then [] else [([], partitionTitle r.partition)])
    ++ if last = some (r.partition, r.port) then []
      else (portTitle r.port).map fun title => ([partitionTitle r.partition], title)

def eventEntries : Option EventPlace → List EventRecord → List (List String × String)
  | _, [] => []
  | last, r :: rs => headingEntries last r ++ (headingsOf r, eventLine r) :: eventEntries (some (r.partition, r.port)) rs

def PortsLast (r s : EventRecord) : Prop :=
  s.partition = r.partition → s.port = none → r.port = none

theorem portTitle_eq_singleton (port : UInt32) : ∃ title, portTitle (some port) = [title] ∧ depth title = 1 := by
  have hmem : _ ∈ portTitle (some port) := List.mem_singleton_self _
  exact ⟨_, rfl, depth_of_mem_portTitle hmem⟩

section

variable {r s : EventRecord} (rest : List String)

theorem outlineFrom_headingsOf
    : outlineFrom (headingsOf r) (eventLine r :: rest)
        =
      (headingsOf r, eventLine r) :: outlineFrom (eventLine r :: headingsOf r) rest := by
  apply outlineFrom_under
  unfold headingsOf
  cases r.port with
  | none => simp [portTitle, depth_partitionTitle, depth_eventLine]
  | some p =>
    obtain ⟨title, htitle, hdepth⟩ := portTitle_eq_singleton p
    simp [htitle, hdepth, depth_eventLine]

theorem outlineFrom_partitionTitle
    : outlineFrom [partitionTitle r.partition] (portTitle r.port ++ eventLine r :: rest)
        =
      (portTitle r.port).map (fun title => ([partitionTitle r.partition], title))
        ++ (headingsOf r, eventLine r) :: outlineFrom (eventLine r :: headingsOf r) rest := by
  rw [← outlineFrom_headingsOf]
  unfold headingsOf
  cases r.port with
  | none => rfl
  | some p =>
    obtain ⟨title, htitle, hdepth⟩ := portTitle_eq_singleton p
    rw [htitle, List.singleton_append, outlineFrom_under (by simp [hdepth, depth_partitionTitle])]
    rfl

theorem outlineFrom_portTitle (p : UInt32)
    : outlineFrom (eventLine s :: headingsOf s) (portTitle (some p) ++ rest)
        =
      outlineFrom [partitionTitle s.partition] (portTitle (some p) ++ rest) := by
  obtain ⟨title, htitle, hdepth⟩ := portTitle_eq_singleton p
  rw [htitle, List.singleton_append, outlineFrom_beside (by simp [hdepth, depth_eventLine])]
  unfold headingsOf
  cases s.port with
  | none => rfl
  | some q =>
    obtain ⟨before, hbefore, hbeforeDepth⟩ := portTitle_eq_singleton q
    rw [hbefore, List.singleton_append, outlineFrom_beside (by omega)]

theorem outlineFrom_record (hs : PortsLast s r)
    : outlineFrom (eventLine s :: headingsOf s) (eventHeadings (some (s.partition, s.port)) r ++ eventLine r :: rest)
        =
      headingEntries (some (s.partition, s.port)) r
        ++ (headingsOf r, eventLine r) :: outlineFrom (eventLine r :: headingsOf r) rest := by
  by_cases hpartition : s.partition = r.partition
  . by_cases hport : s.port = r.port
    . have hsame : headingsOf s = headingsOf r := by
        rw [headingsOf, headingsOf, hpartition, hport]
      have hdepth : depth (eventLine r) ≤ depth (eventLine s) := by
        rw [depth_eventLine, depth_eventLine]
      have hnone : eventHeadings (some (s.partition, s.port)) r = [] := by
        simp [eventHeadings, hpartition, hport]
      have hentries : headingEntries (some (s.partition, s.port)) r = [] := by
        simp [headingEntries, hpartition, hport]
      rw [hnone, hentries, List.nil_append, List.nil_append, outlineFrom_beside hdepth, hsame, outlineFrom_headingsOf]
    . have htitle : eventHeadings (some (s.partition, s.port)) r = portTitle r.port := by
        simp [eventHeadings, hpartition, hport]
      have hentries : headingEntries (some (s.partition, s.port)) r
          = (portTitle r.port).map fun title => ([partitionTitle r.partition], title) := by
        simp [headingEntries, hpartition, hport]
      -- a record without a port would have come before the other one
      obtain ⟨p, hp⟩ : ∃ p, r.port = some p := by
        rw [← Option.isSome_iff_exists, Option.isSome_iff_ne_none]
        intro hnone
        exact hport ((hs hpartition.symm hnone).trans hnone.symm)
      rw [htitle, hentries, ← outlineFrom_partitionTitle, hp, outlineFrom_portTitle, hpartition]
  . have hheadings : eventHeadings (some (s.partition, s.port)) r = partitionTitle r.partition :: portTitle r.port := by
      simp [eventHeadings, hpartition]
    have hentries : headingEntries (some (s.partition, s.port)) r = ([], partitionTitle r.partition)
        :: (portTitle r.port).map fun title => ([partitionTitle r.partition], title) := by
      simp [headingEntries, hpartition]
    rw [hheadings, hentries, List.cons_append, List.cons_append, ← outlineFrom_partitionTitle]
    rw [outlineFrom_of_depth_eq_zero (depth_partitionTitle _)]

theorem outlineFrom_first_record (above : List String)
    : outlineFrom above (eventHeadings none r ++ eventLine r :: rest)
        =
      headingEntries none r ++ (headingsOf r, eventLine r) :: outlineFrom (eventLine r :: headingsOf r) rest := by
  have hheadings : eventHeadings none r = partitionTitle r.partition :: portTitle r.port := by
    simp [eventHeadings]
  have hentries : headingEntries none r = ([], partitionTitle r.partition)
      :: (portTitle r.port).map fun title => ([partitionTitle r.partition], title) := by
    simp [headingEntries]
  rw [hheadings, hentries, List.cons_append, List.cons_append, ← outlineFrom_partitionTitle]
  rw [outlineFrom_of_depth_eq_zero (depth_partitionTitle _)]

end

theorem outlineFrom_eventLinesAfter {s : EventRecord} {records : List EventRecord}
    (hsorted : (s :: records).Pairwise PortsLast)
    : outlineFrom (eventLine s :: headingsOf s) (eventLinesAfter (some (s.partition, s.port)) records)
        =
      eventEntries (some (s.partition, s.port)) records := by
  induction records generalizing s with
  | nil => rfl
  | cons r records ih =>
    obtain ⟨hs, hrest⟩ := List.pairwise_cons.mp hsorted
    unfold eventLinesAfter eventEntries
    rw [outlineFrom_record _ (hs r List.mem_cons_self), ih hrest]

theorem outline_eventLines {records : List EventRecord} (hsorted : records.Pairwise PortsLast)
    : outline (eventLines records) = eventEntries none records := by
  cases records with
  | nil => rfl
  | cons r records =>
    unfold outline eventLines eventLinesAfter eventEntries
    rw [outlineFrom_first_record, outlineFrom_eventLinesAfter hsorted]

theorem eq_of_mem_eventLinesAfter {last : Option EventPlace} {records : List EventRecord} {line : String}
    (h : line ∈ eventLinesAfter last records)
    : (∃ partition, line = partitionTitle partition) ∨ (∃ port, line ∈ portTitle port) ∨ ∃ r, line = eventLine r := by
  induction records generalizing last with
  | nil => cases h
  | cons r records ih =>
    unfold eventLinesAfter eventHeadings at h
    rcases List.mem_append.mp h with hheading | hrest
    . split at hheading
      . rcases List.mem_cons.mp hheading with hpartition | hport
        . exact .inl ⟨r.partition, hpartition⟩
        . exact .inr (.inl ⟨r.port, hport⟩)
      . split at hheading
        . exact .inr (.inl ⟨r.port, hheading⟩)
        . cases hheading
    . rcases List.mem_cons.mp hrest with hevent | hlater
      . exact .inr (.inr ⟨r, hevent⟩)
      . exact ih hlater

theorem linesOf_eventLines (records : List EventRecord) : linesOf (lines (eventLines records)) = eventLines records := by
  apply linesOf_lines
  intro line hline
  rcases eq_of_mem_eventLinesAfter hline with ⟨partition, rfl⟩ | ⟨port, hport⟩ | ⟨r, rfl⟩
  . exact newline_not_mem_partitionTitle partition
  . exact newline_not_mem_portTitle hport
  . exact newline_not_mem_eventLine r

def place (r : EventRecord) : EventPlace :=
  (r.partition, r.port)

section

variable (last : Option EventPlace) (r : EventRecord)

theorem filter_partitions_headingEntries
    : (headingEntries last r).filter (depth ·.2 = 0)
        =
      if last.map Prod.fst = some r.partition then [] else [([], partitionTitle r.partition)] := by
  have hports : ∀ entry ∈ (portTitle r.port).map fun title => ([partitionTitle r.partition], title), depth entry.2 ≠ 0 := by
    rw [List.forall_mem_map]
    intro title htitle
    simp [depth_of_mem_portTitle htitle]
  unfold headingEntries
  rw [List.filter_append, List.filter_eq_self.mpr, List.filter_eq_nil_iff.mpr, List.append_nil]
  . split
    . simp
    . simpa using hports
  . split
    . simp
    . simp [depth_partitionTitle]

theorem filter_ports_headingEntries
    : (headingEntries last r).filter (depth ·.2 = 1)
        =
      if last = some (place r) then [] else (portTitle r.port).map fun title => ([partitionTitle r.partition], title) := by
  have hports : ∀ entry ∈ (portTitle r.port).map fun title => ([partitionTitle r.partition], title), depth entry.2 = 1 := by
    rw [List.forall_mem_map]
    intro title htitle
    exact depth_of_mem_portTitle htitle
  unfold headingEntries
  rw [List.filter_append, List.filter_eq_nil_iff.mpr, List.filter_eq_self.mpr, List.nil_append]
  . rfl
  . split
    . simp
    . simpa using hports
  . split
    . simp
    . simp [depth_partitionTitle]

theorem filter_records_headingEntries : (headingEntries last r).filter (depth ·.2 = 2) = [] := by
  rw [List.filter_eq_nil_iff]
  intro entry hentry
  rcases List.mem_append.mp hentry with hpartition | hport
  . split at hpartition
    . cases hpartition
    . simp [List.mem_singleton.mp hpartition, depth_partitionTitle]
  . split at hport
    . cases hport
    . obtain ⟨title, htitle, rfl⟩ := List.mem_map.mp hport
      simp [depth_of_mem_portTitle htitle]

end

section

variable (last : Option EventPlace) (records : List EventRecord)

theorem filter_partitions_eventEntries
    : (eventEntries last records).filter (depth ·.2 = 0)
        =
      (changes (last.map Prod.fst) (records.map EventRecord.partition)).map fun partition =>
        ([], partitionTitle partition) := by
  induction records generalizing last with
  | nil => rfl
  | cons r records ih =>
    rw [eventEntries, List.filter_append, filter_partitions_headingEntries]
    rw [List.filter_cons_of_neg (by simp [depth_eventLine]), ih, List.map_cons, changes]
    split
    . next hsame =>
      rw [hsame]
      rfl
    . rfl

theorem filter_ports_eventEntries
    : (eventEntries last records).filter (depth ·.2 = 1)
        =
      (changes last (records.map place)).flatMap fun (partition, port) =>
        (portTitle port).map fun title => ([partitionTitle partition], title) := by
  induction records generalizing last with
  | nil => rfl
  | cons r records ih =>
    rw [eventEntries, List.filter_append, filter_ports_headingEntries]
    rw [List.filter_cons_of_neg (by simp [depth_eventLine]), ih, List.map_cons, changes]
    split
    . next hsame =>
      rw [hsame]
      rfl
    . rfl

theorem filter_records_eventEntries
    : (eventEntries last records).filter (depth ·.2 = 2) = records.map fun r => (headingsOf r, eventLine r) := by
  induction records generalizing last with
  | nil => rfl
  | cons r records ih =>
    rw [eventEntries, List.filter_append, filter_records_headingEntries]
    rw [List.filter_cons_of_pos (by simp [depth_eventLine]), ih]
    rfl

end

theorem numberAfter?_partitionTitle (partition : Option UInt32)
    : numberAfter? "Partition " (partitionTitle partition) = partition.map UInt32.toNat := by
  cases partition with
  | none => rfl
  | some p =>
    have hrest : ∀ c ∈ (" Events:").toList.head?, c.isDigit = false := by simp
    exact numberAfter?_append "Partition " p.toNat hrest

theorem partitionTitle_injective : Function.Injective partitionTitle := by
  intro p q heq
  have hnumber := congrArg (numberAfter? "Partition ") heq
  rw [numberAfter?_partitionTitle, numberAfter?_partitionTitle] at hnumber
  exact Option.map_injective (fun _ _ => UInt32.toNat.inj) hnumber

theorem numberAfter?_portTitle {port : UInt32} {title : String} (h : title ∈ portTitle (some port))
    : numberAfter? "    Port " title = if port = virtualEndpoint then none else some port.toNat := by
  obtain rfl := List.mem_singleton.mp h
  have hrest : ∀ c ∈ (":").toList.head?, c.isDigit = false := by simp
  split
  . rfl
  . exact numberAfter?_append "    Port " port.toNat hrest

theorem portTitle_injective : Function.Injective portTitle := by
  intro p q heq
  cases p with
  | none =>
    cases q with
    | none => rfl
    | some q => cases heq
  | some p =>
    cases q with
    | none => cases heq
    | some q =>
      obtain ⟨title, htitle, _⟩ := portTitle_eq_singleton p
      have hp : title ∈ portTitle (some p) := htitle ▸ List.mem_singleton_self title
      have hnumber := numberAfter?_portTitle hp
      rw [numberAfter?_portTitle (heq ▸ hp)] at hnumber
      split at hnumber
      . next hq =>
        split at hnumber
        . next hp => rw [hp, hq]
        . cases hnumber
      . split at hnumber
        . cases hnumber
        . rw [UInt32.toNat.inj (Option.some.inj hnumber)]

section

variable {r s : EventRecord} {records : List EventRecord}

theorem portsLast_of_key_le (h : r.key ≤ s.key) : PortsLast r s := by
  intro hpartition hport
  have hnone : EventRecord.rank none = 0 := rfl
  unfold EventRecord.key at h
  simp only [cons_le_cons_iff, hpartition, hport] at h
  apply EventRecord.rank_inj
  omega

theorem rank_partition_le_of_key_le (h : r.key ≤ s.key) : EventRecord.rank r.partition ≤ EventRecord.rank s.partition := by
  rcases cons_le_cons_iff.mp h with hlt | ⟨heq, _⟩
  . exact Nat.le_of_lt hlt
  . exact Nat.le_of_eq heq

def placeKey (p : EventPlace) : List Nat :=
  [EventRecord.rank p.1, EventRecord.rank p.2]

theorem placeKey_injective : Function.Injective placeKey := by
  rintro ⟨p, q⟩ ⟨p', q'⟩ h
  obtain ⟨hpartition, hport⟩ := List.cons.inj h
  cases EventRecord.rank_inj hpartition
  cases EventRecord.rank_inj (List.cons.inj hport).1
  rfl

theorem placeKey_le_of_key_le (h : r.key ≤ s.key) : placeKey (place r) ≤ placeKey (place s) := by
  unfold EventRecord.key at h
  unfold placeKey place
  simp only [cons_le_cons_iff, le_refl, and_true] at h ⊢
  omega

theorem changes_partitions (hsorted : records.Pairwise fun r s => r.key ≤ s.key)
    : changes none (records.map EventRecord.partition) = (records.map EventRecord.partition).dedup := by
  apply changes_eq_dedup (fun _ _ => EventRecord.rank_inj)
  rw [List.pairwise_map]
  exact hsorted.imp rank_partition_le_of_key_le

theorem changes_places (hsorted : records.Pairwise fun r s => r.key ≤ s.key)
    : changes none (records.map place) = (records.map place).dedup := by
  apply changes_eq_dedup placeKey_injective
  rw [List.pairwise_map]
  exact hsorted.imp placeKey_le_of_key_le

theorem not_mem_portTitle (partition port : Option UInt32) : partitionTitle partition ∉ portTitle port := by
  intro hmem
  have hdepth := depth_of_mem_portTitle hmem
  rw [depth_partitionTitle] at hdepth
  cases hdepth

theorem partitionTitle_ne_eventLine (partition : Option UInt32) (r : EventRecord) : partitionTitle partition ≠ eventLine r := by
  intro heq
  have hdepth := congrArg depth heq
  rw [depth_partitionTitle, depth_eventLine] at hdepth
  cases hdepth

/--
What has no partition comes first, so its heading does not come back.
-/
theorem global_not_mem_eventLinesAfter (hsorted : (s :: records).Pairwise fun r s => r.key ≤ s.key)
    : partitionTitle none ∉ eventLinesAfter (some (s.partition, s.port)) records := by
  induction records generalizing s with
  | nil => apply List.not_mem_nil
  | cons r records ih =>
    obtain ⟨hs, hrest⟩ := List.pairwise_cons.mp hsorted
    have hheadings : partitionTitle none ∉ eventHeadings (some (s.partition, s.port)) r := by
      intro hmem
      unfold eventHeadings at hmem
      split at hmem
      . next hchange =>
        rcases List.mem_cons.mp hmem with hglobal | hport
        . have hnone : none = r.partition := partitionTitle_injective hglobal
          have hrank := rank_partition_le_of_key_le (hs r List.mem_cons_self)
          rw [← hnone] at hrank
          have hsame : s.partition = none := EventRecord.rank_inj (Nat.le_zero.mp hrank)
          apply hchange
          rw [Option.map_some, hsame, hnone]
        . exact not_mem_portTitle _ _ hport
      . split at hmem
        . exact not_mem_portTitle _ _ hmem
        . cases hmem
    unfold eventLinesAfter
    rw [List.mem_append, List.mem_cons]
    rintro (hmem | hmem | hmem)
    . exact hheadings hmem
    . exact partitionTitle_ne_eventLine _ _ hmem
    . exact ih hrest hmem

theorem index_of_global (hsorted : records.Pairwise fun r s => r.key ≤ s.key) {i : Nat}
    (h : (eventLines records)[i]? = some (partitionTitle none)) : i = 0 := by
  cases records with
  | nil => cases h
  | cons r records =>
    have hfirst : eventHeadings none r = partitionTitle r.partition :: portTitle r.port := by
      simp [eventHeadings]
    unfold eventLines eventLinesAfter at h
    rw [hfirst] at h
    cases i with
    | zero => rfl
    | succ i =>
      exfalso
      rw [List.cons_append, List.getElem?_cons_succ] at h
      rcases List.mem_append.mp (List.mem_of_getElem? h) with hport | hrest
      . exact not_mem_portTitle _ _ hport
      . rcases List.mem_cons.mp hrest with hevent | hlater
        . exact partitionTitle_ne_eventLine _ _ hevent
        . exact global_not_mem_eventLinesAfter hsorted hlater

end

end Report

namespace Handle

open Operation

variable {h : Handle} {q : EventQuery} {t : List (Entry deviceInterface)}

theorem port_eq_none_of_yields_placeOf {event : Event} {index : Nat} {place : Option UInt32 × Option UInt32}
    (hyields : (h.placeOf event index).run.Yields t (.ok place)) (hnone : place.1 = none) : place.2 = none := by
  unfold placeOf at hyields
  split at hyields
  . cases (yields_pure.mp hyields).2
    rfl
  . cases (yields_pure.mp hyields).2
    rfl
  . rcases Program.yields_run_bind.mp hyields with ⟨e, _, hresult⟩ | ⟨⟨partition, port⟩, _, _, _, _, hrest⟩
    . cases hresult
    . cases (yields_pure.mp hrest).2
      cases hnone

theorem port_eq_none_of_yields_record? {event : Event} {index : Nat} {r : EventRecord}
    (hyields : (h.record? q event index).run.Yields t (.ok (some r))) (hnone : r.partition = none) : r.port = none := by
  unfold record? at hyields
  split at hyields
  . cases (yields_pure.mp hyields).2
  rcases Program.yields_run_bind.mp hyields with ⟨e, _, hresult⟩ | ⟨⟨partition, port⟩, _, _, _, hplace, hrest⟩
  . cases hresult
  dsimp only at hrest
  split at hrest
  . cases (yields_pure.mp hrest).2
  rcases Program.yields_run_bind.mp hrest with ⟨e, _, hresult⟩ | ⟨count, _, _, _, _, hdone⟩
  . cases hresult
  cases (yields_pure.mp hdone).2
  exact port_eq_none_of_yields_placeOf hplace hnone

theorem port_eq_none_of_yields_records {marked : List (Event × Nat)} {records : List EventRecord}
    (hyields : (h.records q marked).run.Yields t (.ok records)) : ∀ r ∈ records, r.partition = none → r.port = none := by
  induction marked generalizing t records with
  | nil =>
    cases (yields_pure.mp hyields).2
    apply List.forall_mem_nil
  | cons p marked ih =>
    unfold Handle.records at hyields
    rcases Program.yields_run_bind.mp hyields with ⟨e, _, hresult⟩ | ⟨first, _, _, _, hfirst, hrest⟩
    . cases hresult
    obtain ⟨answer, hothers, hanswer⟩ := yields_bind_pure.mp hrest
    cases answer with
    | error e => cases hanswer
    | ok others =>
      cases hanswer
      rw [List.forall_mem_append]
      refine ⟨?_, ih hothers⟩
      intro r hr
      rw [Option.mem_toList.mp hr] at hfirst
      exact port_eq_none_of_yields_record? hfirst

theorem listed_of_yields_events {s : Summary} {records : List EventRecord}
    (hyields : (h.events s q).run.Yields t (.ok records))
    : (records.Pairwise fun r s => r.le s = true) ∧ ∀ r ∈ records, r.partition = none → r.port = none := by
  obtain ⟨answer, hrecords, hanswer⟩ := yields_bind_pure.mp hyields
  cases answer with
  | error e => cases hanswer
  | ok listed =>
    cases hanswer
    constructor
    . exact (EventRecord.pairwise_mergeSort listed).imp EventRecord.le_iff.mpr
    . intro r hr
      exact port_eq_none_of_yields_records hrecords r ((List.mergeSort_perm _ _).mem_iff.mp hr)

end Handle

open Report Text

/--
The lines of any list of records in the order of a listing, such as every listing of events returns. Every record has
one line, in the order of the list, which stands under the heading of the record's partition, and under that of its port
if it has one. Every partition has one heading, and every port of a partition has one. What has no partition comes
first.
-/
theorem records_stand_under_their_headings
    : (∀ (h : Handle) (s : Summary) (q : EventQuery) t records,
        (h.events s q).run.Yields t (.ok records) →
          (records.Pairwise fun r s => r.le s = true) ∧ ∀ r ∈ records, r.partition = none → r.port = none)
        ∧
      (∀ records : List EventRecord,
        (records.Pairwise fun r s => r.le s = true) →
          let ls := linesOf (lines (eventLines records))
          (outline ls).filter (depth ·.2 = 2)
            = records.map (fun r => (portTitle r.port ++ [partitionTitle r.partition], eventLine r))
            ∧
          (outline ls).filter (depth ·.2 = 1)
            = (records.map fun r => (r.partition, r.port)).dedup.flatMap (fun (partition, port) =>
                (portTitle port).map fun title => ([partitionTitle partition], title))
            ∧
          (outline ls).filter (depth ·.2 = 0)
            = (records.map EventRecord.partition).dedup.map (fun partition => ([], partitionTitle partition))
            ∧
          (∀ line ∈ ls, depth line ≤ 2)
            ∧
          ∀ i, ls[i]? = some "Global Events:" → i = 0)
        ∧
      Function.Injective partitionTitle
        ∧
      Function.Injective portTitle
        ∧
      ∀ port, (portTitle port).length = if port = none then 0 else 1 := by
  refine ⟨fun h s q t records => Handle.listed_of_yields_events, ?_, partitionTitle_injective, portTitle_injective, ?_⟩
  . intro records hle ls
    have hsorted : records.Pairwise fun r s => r.key ≤ s.key := hle.imp EventRecord.le_iff.mp
    have hls : ls = eventLines records := linesOf_eventLines records
    have houtline : outline ls = eventEntries none records := by
      rw [hls]
      exact outline_eventLines (hsorted.imp portsLast_of_key_le)
    refine ⟨?_, ?_, ?_, ?_, ?_⟩
    . rw [houtline, filter_records_eventEntries]
      rfl
    . rw [houtline, filter_ports_eventEntries, changes_places hsorted]
      rfl
    . rw [houtline, filter_partitions_eventEntries, Option.map_none, changes_partitions hsorted]
    . intro line hline
      rw [hls] at hline
      rcases eq_of_mem_eventLinesAfter hline with ⟨partition, rfl⟩ | ⟨port, hport⟩ | ⟨r, rfl⟩
      . rw [depth_partitionTitle]
        decide
      . rw [depth_of_mem_portTitle hport]
        decide
      . rw [depth_eventLine]
    . intro i hi
      rw [hls] at hi
      exact index_of_global hsorted hi
  . intro port
    cases port <;> rfl

/--
Two partitions have a port 3 each, and each of these has its own heading.
-/
theorem same_port_in_two_partitions
    : let records : List EventRecord :=
        [⟨none, none, .systemReset, 1⟩, ⟨some 0, none, .commandComplete, 12⟩, ⟨some 0, some 3, .hotplug, 1⟩,
          ⟨some 0, some 3, .linkState, 2⟩, ⟨some 1, some 3, .linkState, 1⟩,
          ⟨some 1, some virtualEndpoint, .errorReportEndpoint, 4⟩]
      (records.Pairwise fun r s => r.le s = true)
        ∧
      (outline (linesOf (lines (eventLines records)))).filter (depth ·.2 = 1)
        =
      [(["Partition 0 Events:"], "    Port 3:"), (["Partition 1 Events:"], "    Port 3:"),
        (["Partition 1 Events:"], "    Port VEP:")] := by
  intro records
  have hsorted : records.Pairwise fun r s => r.le s = true := by
    decide
  obtain ⟨_, hports, _⟩ := records_stand_under_their_headings.2.1 records hsorted
  refine ⟨hsorted, ?_⟩
  rw [hports]
  decide

end PcieSwitch
