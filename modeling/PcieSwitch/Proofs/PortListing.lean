import PcieSwitch.Proofs.CounterPages
import PcieSwitch.Proofs.KeyOrder

/-!
This module contains the listing of a switch's ports. A status reply has an entry for each port, and the listing has the
entries that are in use, in the order of partitions.
-/

namespace PcieSwitch

theorem UInt8.shiftRight_four (b : UInt8) : b >>> 4 = b / 16 := by
  apply UInt8.toNat.inj
  rw [UInt8.toNat_shiftRight, UInt8.toNat_div]
  apply Nat.shiftRight_eq_div_pow

theorem UInt8.and_fifteen (b : UInt8) : b &&& 0xF = b % 16 := by
  apply UInt8.toNat.inj
  rw [UInt8.toNat_and, UInt8.toNat_mod]
  exact Nat.and_two_pow_sub_one_eq_mod b.toNat 4

theorem UInt8.and_lowest_seven (b : UInt8) : b &&& 0x7F = b % 128 := by
  apply UInt8.toNat.inj
  rw [UInt8.toNat_and, UInt8.toNat_mod]
  exact Nat.and_two_pow_sub_one_eq_mod b.toNat 7

theorem UInt8.shiftRight_seven_ne_zero (b : UInt8) : (b >>> 7 != 0) = decide (128 ≤ b) := by
  have hshift : (b >>> 7).toNat = b.toNat / 128 := by
    rw [UInt8.toNat_shiftRight]
    apply Nat.shiftRight_eq_div_pow
  rw [Bool.eq_iff_iff, bne_iff_ne, decide_eq_true_iff, ne_eq, ← UInt8.toNat_inj, hshift, UInt8.le_iff_toNat_le]
  change ¬ b.toNat / 128 = 0 ↔ 128 ≤ b.toNat
  omega

namespace PortStatus

/--
The status that an entry of twelve bytes tells, each part of it from its place. The last two bytes tell nothing.
-/
def ofEntry (entry : Bytes) : PortStatus where
  port := {
    physical := entry.getD 0 0
    partition := entry.getD 1 0
    logical := entry.getD 2 0
    stack := entry.getD 3 0 / 16
    stackPort := entry.getD 3 0 % 16
    facesHost := entry.getD 6 0 != 0
  }
  configuredWidth := entry.getD 4 0
  negotiatedWidth := entry.getD 5 0
  linkUp := decide (128 ≤ entry.getD 7 0)
  linkRate := entry.getD 7 0 % 128
  state := ⟨UInt16.ofNat ((entry.getD 8 0).toNat + 256 * (entry.getD 9 0).toNat)⟩

def isListed (s : PortStatus) : Bool :=
  s.port.stack.toNat ≤ maxStacks

theorem guard_isListed (s : PortStatus)
    : Option.guard isListed s = if maxStacks < s.port.stack.toNat then none else some s := by
  unfold Option.guard isListed
  by_cases h : maxStacks < s.port.stack.toNat
  . simp [h, Nat.not_le.mpr h]
  . simp [h, Nat.not_lt.mp h]

theorem takes_read : read.Takes 12 fun entry => Option.guard isListed (ofEntry entry) := by
  have h := Read.takes_bind Read.takes_u8 fun physical => Read.takes_bind Read.takes_u8 fun partition =>
    Read.takes_bind Read.takes_u8 fun logical => Read.takes_bind Read.takes_u8 fun place =>
    Read.takes_bind Read.takes_u8 fun configuredWidth => Read.takes_bind Read.takes_u8 fun negotiatedWidth =>
    Read.takes_bind Read.takes_flag fun facesHost => Read.takes_bind Read.takes_u8 fun link =>
    Read.takes_bind Read.takes_u16 fun state => Read.takes_bind (Read.takes_skip 2) fun _ =>
    Read.takes_ite (maxStacks < (place >>> 4).toNat) (Read.takes_pure none) (Read.takes_pure (some {
      port := ⟨partition, place >>> 4, facesHost, place &&& 0xF, physical, logical⟩
      configuredWidth
      negotiatedWidth
      linkUp := link >>> 7 != 0
      linkRate := link &&& 0x7F
      state := ⟨state⟩ : PortStatus
    }))
  apply Read.takes_congr h
  intro entry hentry
  match entry, hentry with
  | [physical, partition, logical, place, configured, negotiated, host, link, major, minor, _, _], _ =>
    simp only [UInt8.shiftRight_four, UInt8.and_fifteen, UInt8.and_lowest_seven, UInt8.shiftRight_seven_ne_zero]
    rw [guard_isListed]
    simp [Bytes.toNat, ofEntry]

def kept (reply : Bytes) : List PortStatus :=
  ((List.range maxPorts).map fun i => ofEntry (Read.entry 12 reply i)).filter isListed

theorem filterMap_read_eq_kept {reply : Bytes} (h : reply.length = 12 * maxPorts)
    : (reply.read (Read.times maxPorts read)).filterMap id = kept reply := by
  rw [Read.read_of_takes (Read.takes_times takes_read maxPorts) h, List.filterMap_map]
  unfold kept
  rw [← List.filterMap_eq_filter, List.filterMap_map]
  rfl

def key (s : PortStatus) : List Nat :=
  [s.port.partition.toNat, if s.port.facesHost then 0 else 1, s.port.logical.toNat]

theorem le_iff {s t : PortStatus} : s.le t = true ↔ s.key ≤ t.key := by
  unfold le key
  simp only [cons_le_cons_iff, le_refl, and_true, bne_iff_ne]
  split
  . next hpartition =>
    rw [ne_eq, ← UInt8.toNat_inj] at hpartition
    rw [decide_eq_true_iff, UInt8.lt_iff_toNat_lt]
    omega
  . next hpartition =>
    rw [Decidable.not_not] at hpartition
    rw [hpartition]
    split
    . next hhost =>
      cases hs : s.port.facesHost <;> cases ht : t.port.facesHost <;> simp_all
    . next hhost =>
      rw [Decidable.not_not] at hhost
      rw [hhost, decide_eq_true_iff, UInt8.le_iff_toNat_le]
      omega

theorem ofReply_eq_mergeSort_kept {reply : Bytes} (h : reply.length = 12 * maxPorts)
    : ofReply reply = (kept reply).mergeSort le := by
  unfold ofReply
  rw [filterMap_read_eq_kept h]

end PortStatus

theorem Handle.sends_status_of_reply {h : Handle} {reply : Bytes}
    (hreply : reply.length = Request.linkStatus.replyLength) {result : Except Error (List PortStatus)}
    : h.status.Sends [(Request.linkStatus.exchange h.generation, .ok reply)] result
        ↔
      result = .ok (PortStatus.ofReply reply) := by
  have hfit := Bytes.fit_eq_self hreply
  rw [sends_status]
  constructor
  . rintro ⟨answer, hsent, rfl⟩
    cases hsent
    rw [Except.map, hfit]
  . rintro rfl
    refine ⟨.ok reply, rfl, ?_⟩
    rw [Except.map, hfit]

/--
The status of a switch is one reply, and the listing of its ports is made of the entries that are in use. Each of them
is listed once, by partition, in a partition the ports that face the host before the others, and then by number. Ports
that agree in all of this stand in the order of the reply.
-/
theorem ports_in_use_are_listed_in_stable_order (h : Handle) {reply : Bytes} (hreply : reply.length = 576)
    : let listing := PortStatus.ofReply reply
      (∀ result, h.status.Sends [(Request.linkStatus.exchange h.generation, .ok reply)] result ↔ result = .ok listing)
        ∧
      listing.Perm (PortStatus.kept reply)
        ∧
      (listing.Pairwise fun s t => s.key ≤ t.key)
        ∧
      ∀ key, listing.filter (·.key = key) = (PortStatus.kept reply).filter (·.key = key) := by
  dsimp only
  refine ⟨fun result => Handle.sends_status_of_reply hreply, ?_⟩
  rw [PortStatus.ofReply_eq_mergeSort_kept hreply]
  refine ⟨List.mergeSort_perm _ _, pairwise_mergeSort_of_key @PortStatus.le_iff _, ?_⟩
  intro key
  exact filter_mergeSort_of_key @PortStatus.le_iff _ key

/--
Ports 9 and 4 both face the host of partition 1, and ports 0 and 5 of partition 0 have one number. Two entries that are
not in use lie among them.
-/
theorem listing_of_ports_with_equal_keys
    : let h : Handle := { name := "switch", partition := 0, generation := .gen4 }
      let entry (physical partition logical place host : UInt8) : Bytes :=
        [physical, partition, logical, place, 4, 2, host, 0x84, 3, 1, 0xAA, 0xBB]
      let unused : Bytes := (List.replicate 39 (entry 0xFF 0xFF 0xFF 0xFF 0)).flatten
      let reply : Bytes := entry 8 1 3 0x10 0 ++ entry 0 0 2 0x01 0 ++ entry 7 0 0 0x90 1 ++ entry 9 1 0 0x11 7
        ++ entry 1 0 0 0x00 1 ++ entry 0xFF 0xFF 0xFF 0xFF 0 ++ entry 5 0 2 0x0F 0 ++ entry 4 1 0 0x12 1
        ++ entry 6 2 0 0x80 0 ++ unused
      let port (physical partition logical stack place : UInt8) (facesHost : Bool) : PortStatus :=
        ⟨⟨partition, stack, facesHost, place, physical, logical⟩, 4, 2, true, 4, ⟨0x0103⟩⟩
      reply.length = 576
        ∧
      h.status.Sends [(Request.linkStatus.exchange h.generation, .ok reply)] (.ok [
        port 1 0 0 0 0 true, port 0 0 2 0 1 false, port 5 0 2 0 15 false, port 9 1 0 1 1 true, port 4 1 0 1 2 true,
        port 8 1 3 1 0 false, port 6 2 0 8 0 false
      ])
        ∧
      (PortStatus.ofReply reply).filter (·.key = [1, 0, 0]) = [port 9 1 0 1 1 true, port 4 1 0 1 2 true] := by
  intro h entry unused reply port
  have hreply : reply.length = 576 := by decide +kernel
  obtain ⟨hstatus, _, _, hstable⟩ := ports_in_use_are_listed_in_stable_order h hreply
  have hkept : PortStatus.kept reply = [
      port 8 1 3 1 0 false, port 0 0 2 0 1 false, port 9 1 0 1 1 true, port 1 0 0 0 0 true, port 5 0 2 0 15 false,
      port 4 1 0 1 2 true, port 6 2 0 8 0 false
    ] := by
    decide +kernel
  refine ⟨hreply, ?_, ?_⟩
  . rw [hstatus, PortStatus.ofReply_eq_mergeSort_kept hreply, hkept]
    simp [List.mergeSort, PortStatus.le, port]
  . rw [hstable, hkept]
    decide +kernel

end PcieSwitch
