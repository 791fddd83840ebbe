import PcieSwitch.Proofs.FeatureChains
import PcieSwitch.Proofs.PortListing

/-!
This module contains the stacks of the ports that a listing has, and what becomes of a query for the counters of such a
stack. The listing takes entries with one stack more than there are.
-/

namespace PcieSwitch

namespace PortStatus

theorem getD_entry (reply : Bytes) (i : Nat) {place : Nat} (hplace : place < 12)
    : (Read.entry 12 reply i).getD place 0 = reply.getD (12 * i + place) 0 := by
  unfold Read.entry
  rw [List.getD_eq_getElem?_getD, List.getD_eq_getElem?_getD, List.getElem?_take_of_lt hplace, List.getElem?_drop]

def stackAt (reply : Bytes) (i : Nat) : Nat :=
  (reply.getD (12 * i + 3) 0).toNat / 16

theorem stack_ofEntry_entry (reply : Bytes) (i : Nat)
    : (ofEntry (Read.entry 12 reply i)).port.stack.toNat = stackAt reply i := by
  unfold ofEntry stackAt
  dsimp only
  rw [getD_entry reply i (by decide), UInt8.toNat_div]
  rfl

theorem mem_ofReply {reply : Bytes} (h : reply.length = 12 * maxPorts) {s : PortStatus}
    : s ∈ ofReply reply
        ↔
      ∃ i < maxPorts, s = ofEntry (Read.entry 12 reply i) ∧ stackAt reply i ≤ maxStacks := by
  rw [ofReply_eq_mergeSort_kept h, List.mem_mergeSort]
  unfold kept
  rw [List.mem_filter, List.mem_map]
  unfold isListed
  constructor
  . rintro ⟨⟨i, hi, rfl⟩, hstack⟩
    rw [decide_eq_true_iff, stack_ofEntry_entry] at hstack
    exact ⟨i, List.mem_range.mp hi, rfl, hstack⟩
  . rintro ⟨i, hi, rfl, hstack⟩
    rw [decide_eq_true_iff, stack_ofEntry_entry]
    exact ⟨⟨i, List.mem_range.mpr hi, rfl⟩, hstack⟩

theorem stack_le_of_mem_ofReply {reply : Bytes} (h : reply.length = 12 * maxPorts) {s : PortStatus}
    (hs : s ∈ ofReply reply) : s.port.stack.toNat ≤ maxStacks := by
  obtain ⟨i, _, rfl, hstack⟩ := (mem_ofReply h).mp hs
  rw [stack_ofEntry_entry]
  exact hstack

theorem forall_stack_lt_iff {reply : Bytes} (h : reply.length = 12 * maxPorts)
    : (∀ s ∈ ofReply reply, s.port.stack.toNat < maxStacks) ↔ ∀ i < maxPorts, stackAt reply i ≠ maxStacks := by
  constructor
  . intro hlisted i hi heq
    have hlt := hlisted _ ((mem_ofReply h).mpr ⟨i, hi, rfl, Nat.le_of_eq heq⟩)
    rw [stack_ofEntry_entry] at hlt
    exact Nat.ne_of_lt hlt heq
  . intro hentries s hs
    obtain ⟨i, hi, rfl, hstack⟩ := (mem_ofReply h).mp hs
    rw [stack_ofEntry_entry]
    exact Nat.lt_of_le_of_ne hstack (hentries i hi)

end PortStatus

namespace Handle

variable {h : Handle} {stack : UInt8} {count : Nat} {clear : Bool}

theorem sends_counterValues (hstack : stack.toNat < maxStacks) (hcount : count ≤ maxEventCounters) {sent : List Sent}
    {result : Except Error (List UInt32)}
    : (h.counterValues stack 0 count clear).Sends sent result
        ↔
      ∃ answer,
        sent = [((Request.counterValues stack 0 (UInt8.ofNat count) clear).exchange h.generation, answer)]
          ∧
        result = answer.map fun reply =>
          counterValuesOfReply count (reply.fit (count * Request.counterEntrySize)) := by
  have haccepted : refuseCounters stack 0 count = none :=
    refuseCounters_of_range hstack (by decide) (by rwa [Nat.zero_add])
  have hsize : (UInt8.ofNat count).toNat = count := UInt8.toNat_ofNat_of_lt' (Nat.lt_of_le_of_lt hcount (by decide))
  obtain ⟨hfits, heq⟩ := h.counterValues_of_accepted haccepted
  rw [heq, sends_request_pure hfits, Request.replyLength, hsize]
  rfl

end Handle

/--
Every port of a listing is on one of the stacks, or on the one behind the last. The counters of its stack can be queried
in the first case only: in the second one the query is refused, and nothing is sent. So no listed port is refused
exactly if no entry of the reply has the stack behind the last one.
-/
theorem counters_of_listed_port_are_refused_iff (h : Handle) {reply : Bytes} (hreply : reply.length = 576)
    : (∀ s ∈ PortStatus.ofReply reply, ∀ count ≤ maxEventCounters, ∀ clear sent result,
        (h.counterValues s.port.stack 0 count clear).Sends sent result
          ↔
        (s.port.stack.toNat = maxStacks ∧ sent = [] ∧ result = .error (.stackOutOfRange maxStacks)) ∨
        (s.port.stack.toNat < maxStacks ∧ ∃ answer,
          sent = [((Request.counterValues s.port.stack 0 (UInt8.ofNat count) clear).exchange h.generation, answer)]
            ∧
          result = answer.map fun reply =>
            counterValuesOfReply count (reply.fit (count * Request.counterEntrySize))))
        ∧
      ((∀ s ∈ PortStatus.ofReply reply, s.port.stack.toNat < maxStacks)
        ↔ ∀ i < maxPorts, (reply.getD (12 * i + 3) 0).toNat / 16 ≠ maxStacks) := by
  refine ⟨?_, PortStatus.forall_stack_lt_iff hreply⟩
  intro s hs count hcount clear sent result
  rcases Nat.lt_or_eq_of_le (PortStatus.stack_le_of_mem_ofReply hreply hs) with hlt | heq
  . rw [Handle.sends_counterValues hlt hcount]
    simp [hlt, Nat.ne_of_lt hlt]
  . have hrefused := refuseCounters_of_stack (Nat.le_of_eq heq.symm) 0 count
    rw [Handle.counterValues_of_refused hrefused, Operation.sends_throw, heq]
    simp

/--
One port is on the last stack and one on the stack behind it. Counters of the one can be queried, those of the other
cannot.
-/
theorem port_behind_last_stack_is_refused
    : let h : Handle := { name := "switch", partition := 0, generation := .gen4 }
      let entry (place : UInt8) : Bytes := [1, 0, 0, place, 4, 4, 0, 0x84, 3, 1, 0, 0]
      let reply : Bytes := entry 0x70 ++ entry 0x80 ++ (List.replicate 46 (entry 0xFF)).flatten
      let port (stack : UInt8) : PortStatus := ⟨⟨0, stack, false, 0, 1, 0⟩, 4, 4, true, 4, ⟨0x0103⟩⟩
      reply.length = 576
        ∧
      (port 7 ∈ PortStatus.ofReply reply ∧ port 8 ∈ PortStatus.ofReply reply)
        ∧
      (∀ answer, (h.counterValues 7 0 64 true).Sends
        [(⟨Command.performanceMonitor.id, [1, 7, 0, 64, 1], 512⟩, answer)]
        (answer.map fun reply => counterValuesOfReply 64 (reply.fit 512)))
        ∧
      (∀ sent result, (h.counterValues 8 0 64 true).Sends sent result
        → sent = [] ∧ result = .error (.stackOutOfRange 8))
        ∧
      ¬ ∀ s ∈ PortStatus.ofReply reply, s.port.stack.toNat < maxStacks := by
  intro h entry reply port
  have hreply : reply.length = 576 := by decide +kernel
  have hlast : port 7 ∈ PortStatus.ofReply reply :=
    (PortStatus.mem_ofReply hreply).mpr ⟨0, by decide, by decide +kernel, by decide +kernel⟩
  have hbehind : port 8 ∈ PortStatus.ofReply reply :=
    (PortStatus.mem_ofReply hreply).mpr ⟨1, by decide, by decide +kernel, by decide +kernel⟩
  obtain ⟨hqueries, hall⟩ := counters_of_listed_port_are_refused_iff h hreply
  refine ⟨hreply, ⟨hlast, hbehind⟩, ?_, ?_, ?_⟩
  . intro answer
    exact (hqueries _ hlast 64 (by decide) true _ _).mpr (.inr ⟨by decide, answer, rfl, rfl⟩)
  . intro sent result hsends
    rcases (hqueries _ hbehind 64 (by decide) true sent result).mp hsends with ⟨_, hsent, hresult⟩ | ⟨hlt, _⟩
    . exact ⟨hsent, hresult⟩
    . exact absurd hlt (by decide)
  . rw [hall]
    decide +kernel

/--
A reply with one port, on the stack behind the last one. The port is listed, and no counter of its stack can be queried.
-/
theorem port_behind_last_stack_is_listed
    : let h : Handle := { name := "switch", partition := 0, generation := .gen4 }
      let unused : Bytes := (List.replicate 47 (List.replicate 12 0xFF)).flatten
      let reply : Bytes := [1, 0, 0, 0x80, 4, 4, 1, 0x84, 3, 1, 0, 0] ++ unused
      reply.length = 576
        ∧
      ∃ s ∈ PortStatus.ofReply reply,
        ¬ s.port.stack.toNat < maxStacks ∧ h.counterValues s.port.stack 0 1 false = throw (.stackOutOfRange 8) := by
  intro h unused reply
  have hreply : reply.length = 576 := by decide +kernel
  have hstack : (PortStatus.ofEntry (Read.entry 12 reply 0)).port.stack = 8 := by decide +kernel
  refine ⟨hreply, PortStatus.ofEntry (Read.entry 12 reply 0), ?_, ?_, ?_⟩
  . rw [PortStatus.mem_ofReply hreply]
    exact ⟨0, by decide, rfl, by decide +kernel⟩
  . rw [hstack]
    decide
  . rw [hstack]
    exact Handle.counterValues_of_refused (by rfl)

end PcieSwitch
