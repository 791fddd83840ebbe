import PcieSwitch.Report.Ports
import PcieSwitch.Proofs.PortListing
import PcieSwitch.Proofs.TextOutlines

/-!
This module contains the headings of partitions between the titles of ports. A title brings a heading along only if the
partition is not that of the title before it. Since a listing of ports is in the order of partitions, each of them has one
heading all the same.
-/

namespace PcieSwitch
namespace Report.PortTitles

open Text

def heading (localPartition partition : UInt8) : String :=
  if partition = unbound then "Unbound Ports:"
  else s!"Partition {partition}:" ++ if partition = localPartition then "    (LOCAL)" else ""

def titleLines (localPartition : UInt8) : Option UInt8 → List PortId → List String
  | _, [] => []
  | last, p :: ps =>
    (if last = some p.partition then [] else [heading localPartition p.partition])
      ++ portLine p :: titleLines localPartition (some p.partition) ps

theorem partitionHeading_eq (t : PortTitles) (partition : UInt8)
    : t.partitionHeading partition = heading t.localPartition partition ++ "\n" := by
  unfold partitionHeading heading
  split
  . rfl
  . rfl

theorem lines_titles (t : PortTitles) (ports : List PortId)
    : lines (t.titles ports) = lines (titleLines t.localPartition t.last ports) := by
  induction ports generalizing t with
  | nil => rfl
  | cons p ports ih =>
    unfold titles title titleLines
    dsimp only
    rw [lines_cons, ih]
    split
    . rw [List.nil_append, lines_cons, String.empty_append]
    . rw [List.singleton_append, lines_cons, lines_cons, partitionHeading_eq]
      simp only [String.append_assoc]

theorem depth_heading (localPartition partition : UInt8) : depth (heading localPartition partition) = 0 := by
  unfold heading
  split
  . rfl
  . simp only [String.append_assoc]
    rw [depth_append (by decide)]
    rfl

theorem depth_portLine (p : PortId) : depth (portLine p) = 1 := by
  unfold portLine
  split
  . simp only [String.append_assoc]
    rw [depth_append (by decide)]
    rfl
  . simp only [String.append_assoc]
    rw [depth_append (by decide)]
    rfl

theorem newline_not_mem_heading (localPartition partition : UInt8) : '\n' ∉ (heading localPartition partition).toList := by
  have hnumber : '\n' ∉ (toString partition).toList := not_mem_repr rfl partition.toNat
  have hword : '\n' ∉ (toString "Partition ").toList := by decide
  have hcolon : '\n' ∉ (toString ":").toList := by decide
  unfold heading
  split
  . decide
  . split
    . simp [hnumber, hword, hcolon]
    . simp [hnumber, hword, hcolon]

theorem newline_not_mem_portLine (p : PortId) : '\n' ∉ (portLine p).toList := by
  have hnumber : ∀ n : UInt8, '\n' ∉ (toString n).toList := fun n => not_mem_repr rfl n.toNat
  unfold portLine
  split
  . simp [hnumber, toString_string]
  . cases p.facesHost <;> simp [hnumber, toString_string]

theorem eq_of_mem_titleLines {localPartition : UInt8} {last : Option UInt8} {ports : List PortId} {line : String}
    (h : line ∈ titleLines localPartition last ports)
    : (∃ partition, line = heading localPartition partition) ∨ ∃ p, line = portLine p := by
  induction ports generalizing last with
  | nil => cases h
  | cons p ports ih =>
    unfold titleLines at h
    rcases List.mem_append.mp h with hheading | hrest
    . split at hheading
      . cases hheading
      . exact .inl ⟨p.partition, List.mem_singleton.mp hheading⟩
    . rcases List.mem_cons.mp hrest with hport | hlater
      . exact .inr ⟨p, hport⟩
      . exact ih hlater

theorem linesOf_titles (t : PortTitles) (ports : List PortId)
    : linesOf (lines (t.titles ports)) = titleLines t.localPartition t.last ports := by
  rw [lines_titles]
  apply linesOf_lines
  intro line hline
  rcases eq_of_mem_titleLines hline with ⟨partition, rfl⟩ | ⟨p, rfl⟩
  . exact newline_not_mem_heading t.localPartition partition
  . exact newline_not_mem_portLine p

def entries (localPartition : UInt8) : Option UInt8 → List PortId → List (List String × String)
  | _, [] => []
  | last, p :: ps =>
    (if last = some p.partition then [] else [([], heading localPartition p.partition)])
      ++ ([heading localPartition p.partition], portLine p) :: entries localPartition (some p.partition) ps

theorem outlineFrom_titleLines {localPartition : UInt8} {last : Option UInt8} {above : List String} (ports : List PortId)
    (habove : ∀ partition, last = some partition → ∃ p, above = [portLine p, heading localPartition partition])
    : outlineFrom above (titleLines localPartition last ports) = entries localPartition last ports := by
  induction ports generalizing last above with
  | nil => rfl
  | cons p ports ih =>
    have hnext : ∀ partition, some p.partition = some partition →
        ∃ q, [portLine p, heading localPartition p.partition] = [portLine q, heading localPartition partition] := by
      rintro _ ⟨⟩
      exact ⟨p, rfl⟩
    have hport : ∀ rest, outlineFrom [heading localPartition p.partition] (portLine p :: rest)
        = ([heading localPartition p.partition], portLine p)
          :: outlineFrom [portLine p, heading localPartition p.partition] rest := by
      intro rest
      apply outlineFrom_under
      simp [depth_heading, depth_portLine]
    unfold titleLines entries
    split
    . next hsame =>
      obtain ⟨q, rfl⟩ := habove p.partition hsame
      have hdepth : depth (portLine p) ≤ depth (portLine q) := by
        rw [depth_portLine, depth_portLine]
      rw [List.nil_append, List.nil_append, outlineFrom_beside hdepth, hport, ih hnext]
    . rw [List.singleton_append, List.singleton_append, outlineFrom_of_depth_eq_zero (depth_heading _ _), hport, ih hnext]

section

variable (localPartition : UInt8) (last : Option UInt8) (ports : List PortId)

theorem filter_headings_entries
    : (entries localPartition last ports).filter (depth ·.2 = 0)
        =
      (changes last (ports.map PortId.partition)).map fun q => ([], heading localPartition q) := by
  induction ports generalizing last with
  | nil => rfl
  | cons p ports ih =>
    unfold entries
    rw [List.filter_append, List.filter_cons_of_neg (by simp [depth_portLine]), ih, List.map_cons, changes]
    split
    . next hsame =>
      rw [hsame]
      rfl
    . rw [List.filter_cons_of_pos (by simp [depth_heading]), List.map_cons]
      rfl

theorem filter_ports_entries
    : (entries localPartition last ports).filter (depth ·.2 ≠ 0)
        =
      ports.map fun p => ([heading localPartition p.partition], portLine p) := by
  induction ports generalizing last with
  | nil => rfl
  | cons p ports ih =>
    have hheading : (if last = some p.partition then [] else [(([] : List String), heading localPartition p.partition)]).filter
        (depth ·.2 ≠ 0) = [] := by
      split
      . rfl
      . exact List.filter_cons_of_neg (by simp [depth_heading])
    unfold entries
    rw [List.filter_append, List.filter_cons_of_pos (by simp [depth_portLine]), ih, hheading]
    rfl

end

theorem numberAfter?_heading (localPartition partition : UInt8)
    : numberAfter? "Partition " (heading localPartition partition)
        = if partition = unbound then none else some partition.toNat := by
  unfold heading
  split
  . rfl
  . rw [String.append_assoc]
    apply numberAfter?_append "Partition " partition.toNat
    rw [String.toList_append]
    rintro c ⟨⟩
    rfl

theorem heading_injective (localPartition : UInt8) : Function.Injective (heading localPartition) := by
  intro p q heq
  have hnumber := congrArg (numberAfter? "Partition ") heq
  rw [numberAfter?_heading, numberAfter?_heading] at hnumber
  split at hnumber
  . next hp =>
    split at hnumber
    . next hq => rw [hp, hq]
    . cases hnumber
  . split at hnumber
    . cases hnumber
    . exact UInt8.toNat.inj (Option.some.inj hnumber)

def marksLocal (line : String) : Bool :=
  "(LOCAL)".toList.isSuffixOf line.toList

theorem marksLocal_iff {line : String} : marksLocal line = true ↔ ∃ before, line.toList = before ++ "(LOCAL)".toList := by
  unfold marksLocal
  rw [List.isSuffixOf_iff_suffix]
  constructor
  . rintro ⟨before, hbefore⟩
    exact ⟨before, hbefore.symm⟩
  . rintro ⟨before, hbefore⟩
    exact ⟨before, hbefore.symm⟩

theorem not_marksLocal_append_colon (s : String) : marksLocal (s ++ ":") = false := by
  rw [Bool.eq_false_iff, ne_eq, marksLocal_iff]
  rintro ⟨before, heq⟩
  rw [String.toList_append] at heq
  have hlast := congrArg List.getLast? heq
  rw [List.getLast?_append, List.getLast?_append] at hlast
  cases hlast

theorem not_marksLocal_append_number (s : String) (n : Nat) : marksLocal (s ++ n.repr ++ ")") = false := by
  rw [Bool.eq_false_iff, ne_eq, marksLocal_iff]
  rintro ⟨before, heq⟩
  -- the mark has a letter before its last character, where the line has a digit
  have hmark : "(LOCAL)".toList = "(LOCAL".toList ++ [')'] := rfl
  rw [String.toList_append, String.toList_append, hmark, ← List.append_assoc] at heq
  have hinit := (List.append_inj' heq rfl).1
  have hlast := congrArg List.getLast? hinit
  rw [List.getLast?_append, List.getLast?_append] at hlast
  cases hdigit : n.repr.toList.getLast? with
  | none =>
    rw [List.getLast?_eq_none_iff, Nat.toList_repr] at hdigit
    exact Nat.toDigits_ne_nil hdigit
  | some c =>
    rw [hdigit] at hlast
    cases hlast
    exact not_mem_repr rfl n (List.mem_of_getLast? hdigit)

theorem marksLocal_heading {localPartition partition : UInt8}
    : marksLocal (heading localPartition partition) = true ↔ partition ≠ unbound ∧ partition = localPartition := by
  unfold heading
  by_cases hunbound : partition = unbound
  . simp [hunbound]
    decide
  . rw [if_neg hunbound]
    by_cases hlocal : partition = localPartition
    . rw [if_pos hlocal, marksLocal_iff]
      refine ⟨fun _ => ⟨hunbound, hlocal⟩, fun _ => ⟨(s!"Partition {partition}" ++ ":    ").toList, ?_⟩⟩
      simp only [String.toList_append, List.append_assoc]
      rfl
    . rw [if_neg hlocal, String.append_empty]
      simp [hlocal, not_marksLocal_append_colon, toString_string]

theorem not_marksLocal_portLine (p : PortId) : marksLocal (portLine p) = false := by
  unfold portLine
  split
  . exact not_marksLocal_append_number _ p.stackPort.toNat
  . have hend : ∀ s : String, s ++ "):" = s ++ ")" ++ ":" := by
      intro s
      rw [String.append_assoc]
      rfl
    rw [hend]
    apply not_marksLocal_append_colon

theorem marksLocal_of_mem_titleLines {localPartition : UInt8} {last : Option UInt8} {ports : List PortId} {line : String}
    (h : line ∈ titleLines localPartition last ports)
    : marksLocal line = true ↔ localPartition ≠ unbound ∧ line = heading localPartition localPartition := by
  rcases eq_of_mem_titleLines h with ⟨partition, rfl⟩ | ⟨p, rfl⟩
  . rw [marksLocal_heading, (heading_injective localPartition).eq_iff]
    constructor
    . rintro ⟨hbound, rfl⟩
      exact ⟨hbound, rfl⟩
    . rintro ⟨hbound, rfl⟩
      exact ⟨hbound, rfl⟩
  . rw [not_marksLocal_portLine]
    refine ⟨fun h => absurd h Bool.false_ne_true, ?_⟩
    rintro ⟨_, heq⟩
    have hdepth := congrArg depth heq
    rw [depth_portLine, depth_heading] at hdepth
    cases hdepth

end Report.PortTitles

open Report Report.PortTitles Text

theorem Handle.sends_status_of_any_reply {h : Handle} {reply : Bytes} {result : Except Error (List PortStatus)}
    : h.status.Sends [(Request.linkStatus.exchange h.generation, .ok reply)] result
        ↔
      result = .ok (PortStatus.ofReply (reply.fit Request.linkStatus.replyLength)) := by
  rw [sends_status]
  constructor
  . rintro ⟨answer, hsent, rfl⟩
    cases hsent
    rfl
  . rintro rfl
    exact ⟨.ok reply, rfl, rfl⟩

theorem PortStatus.pairwise_partition_ofReply (reply : Bytes)
    : (((ofReply reply).map port).map PortId.partition).Pairwise fun p q => p.toNat ≤ q.toNat := by
  rw [List.map_map, List.pairwise_map]
  apply (pairwise_mergeSort_of_key @le_iff _).imp
  intro s t hkey
  rcases cons_le_cons_iff.mp hkey with hlt | ⟨heq, _⟩
  . exact Nat.le_of_lt hlt
  . exact Nat.le_of_eq heq

/--
The titles of the ports that a reply lists, whatever the reply and the local partition. Every partition that a port
belongs to has one heading, in the order of the listing, and no other partition has one. Every port has one line, which
stands under the heading of the port's own partition. Only the local partition's heading is marked.
-/
theorem ports_stand_under_their_partitions (reply : Bytes) (localPartition : UInt8)
    : let listing := PortStatus.ofReply (reply.fit 576)
      let ports := listing.map PortStatus.port
      let ls := linesOf (lines ((PortTitles.start localPartition).titles ports))
      (∀ (h : Handle) result,
          h.status.Sends [(Request.linkStatus.exchange h.generation, .ok reply)] result ↔ result = .ok listing)
        ∧
      (outline ls).filter (depth ·.2 = 0)
        = (ports.map PortId.partition).dedup.map (fun partition => ([], heading localPartition partition))
        ∧
      (outline ls).filter (depth ·.2 ≠ 0)
        = ports.map (fun p => ([heading localPartition p.partition], portLine p))
        ∧
      Function.Injective (heading localPartition)
        ∧
      heading localPartition unbound = "Unbound Ports:"
        ∧
      ∀ line ∈ ls, marksLocal line = true ↔ localPartition ≠ unbound ∧ line = heading localPartition localPartition := by
  intro listing ports ls
  have hls : ls = titleLines localPartition none ports := linesOf_titles (PortTitles.start localPartition) ports
  have houtline : outline ls = entries localPartition none ports := by
    rw [hls]
    apply outlineFrom_titleLines
    intro partition hnone
    cases hnone
  refine ⟨fun h result => Handle.sends_status_of_any_reply, ?_, ?_, heading_injective localPartition, rfl, ?_⟩
  . have hsorted := PortStatus.pairwise_partition_ofReply (reply.fit 576)
    rw [houtline, filter_headings_entries, changes_eq_dedup (fun _ _ => UInt8.toNat.inj) hsorted]
  . rw [houtline, filter_ports_entries]
  . intro line hline
    rw [hls] at hline
    exact marksLocal_of_mem_titleLines hline

end PcieSwitch
