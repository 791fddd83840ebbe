import PcieSwitch.Proofs.Attempt
import PcieSwitch.Proofs.ReplyBuffer
import PcieSwitch.Proofs.RequestReading
import PcieSwitch.Simulation.Switch

/-!
This module contains the character device as a transport of commands. It refines a transport that answers from a
script: no operation can tell them apart.
-/

namespace PcieSwitch

abbrev commandInterface : Interface where
  Call := Exchange
  Answer := fun _ => Except Error Bytes

def Handler.commanding (transport : Handler commandInterface τ) (others : Handler deviceInterface σ)
    : Handler deviceInterface (τ × σ)
  | .exchange x, (t, s) =>
    let (answer, t) := transport x t
    (answer, (t, s))
  | .event c, (t, s) =>
    let (answer, s) := others (.event c) s
    (answer, (t, s))
  | .now, (t, s) =>
    let (answer, s) := others .now s
    (answer, (t, s))
  | .log line, (t, s) =>
    let (answer, s) := others (.log line) s
    (answer, (t, s))

namespace Packet

def reply (packet : Bytes) (expected : Nat) : Except Error Bytes :=
  let cut := packet.take (4 + expected)
  let status := UInt32.ofNat (Bytes.toNat (cut.take 4))
  if cut.length < 4 + expected then .error (.shortTransfer cut.length (4 + expected))
  else if status ≠ 0 then .error (.firmware ⟨status⟩)
  else .ok (cut.drop 4)

/--
A character device that takes every write whole and is read packet by packet. Behind the last packet there is
nothing.
-/
def file : Handler fileInterface (List Bytes)
  | .write data, packets => (.ok data.length, packets)
  | .read length, packets => (.ok ((packets.headD []).take length), packets.tail)
  | .control .., packets => (.error .notATerminal, packets)
  | .poll .., packets => (.error .notATerminal, packets)

def overFile (device : Handler fileInterface φ) : Handler commandInterface φ := fun x =>
  x.overFile.run.run device

def scripted : Handler commandInterface (List (Nat → Except Error Bytes)) := fun x replies =>
  (replies.headD (reply []) x.replyLength, replies.tail)

def callsOf (x : Exchange) : List FileCall :=
  [.write x.frame, .read (4 + x.replyLength)]

theorem ofPacket_take (x : Exchange) (packet : Bytes)
    : x.ofPacket (packet.take x.packetLength) = reply packet x.replyLength := by
  unfold Exchange.ofPacket reply Exchange.packetLength
  generalize hcut : packet.take (4 + x.replyLength) = cut
  have hlength : cut.length ≤ 4 + x.replyLength := by
    rw [← hcut]
    apply List.length_take_le
  dsimp only
  by_cases hshort : cut.length < 4 + x.replyLength
  . rw [if_pos (by omega), if_pos hshort]
    rfl
  . have hstatus : Bytes.read cut Read.u32 = UInt32.ofNat (Bytes.toNat (cut.take 4)) := by
      change UInt32.ofNat (Bytes.fit cut 4).toNat = _
      rw [Bytes.fit_eq_take (by omega)]
    rw [if_neg (by omega), if_neg hshort, hstatus]
    split <;> rfl

theorem length_of_reply_eq_ok {packet data : Bytes} {expected : Nat} (h : reply packet expected = .ok data)
    : data.length = expected := by
  unfold reply at h
  dsimp only at h
  split at h
  . cases h
  . split at h
    . cases h
    . cases h
      rw [List.length_drop]
      have hlength := List.length_take_le (4 + expected) packet
      omega

theorem overFile_file (x : Exchange) (packets : List Bytes) (calls : List FileCall)
    : overFile file.traced x (packets, calls)
        =
      (reply (packets.headD []) x.replyLength, packets.tail, (callsOf x).reverse ++ calls) := by
  have hwrite : Program.attempt file.traced (FileWork.write x.frame) (packets, calls)
      = (.ok x.frame.length, packets, .write x.frame :: calls) := by
    rfl
  have hread : ∀ calls, Program.attempt file.traced (FileWork.read x.packetLength) (packets, calls)
      = (.ok ((packets.headD []).take x.packetLength), packets.tail, .read x.packetLength :: calls) := by
    intro calls
    rfl
  change Program.attempt file.traced x.overFile (packets, calls) = _
  unfold Exchange.overFile
  rw [Program.attempt_bind_of_ok hwrite]
  dsimp only
  rw [if_neg (not_not_intro rfl), Program.attempt_bind_of_ok (hread _), Program.attempt_ofExcept, ofPacket_take]
  rfl

end Packet

/--
Two outsides answer alike, whatever they are asked, as long as their states correspond.
-/
def Handler.Simulates {I : Interface} (left : Handler I σ) (right : Handler I τ) (R : σ → τ → Prop) : Prop :=
  ∀ c s t, R s t → (left c s).1 = (right c t).1 ∧ R (left c s).2 (right c t).2

theorem Program.run_of_simulates {I : Interface} {left : Handler I σ} {right : Handler I τ} {R : σ → τ → Prop}
    (hsimulates : left.Simulates right R) (program : Program I α) {s : σ} {t : τ} (h : R s t)
    : (program.run left s).1 = (program.run right t).1 ∧ R (program.run left s).2 (program.run right t).2 := by
  induction program generalizing s t with
  | done value => exact ⟨rfl, h⟩
  | ask c next ih =>
    obtain ⟨hanswer, hstates⟩ := hsimulates c s t h
    change ((next (left c s).1).run left _).1 = ((next (right c t).1).run right _).1 ∧
      R ((next (left c s).1).run left _).2 ((next (right c t).1).run right _).2
    rw [hanswer]
    exact ih _ hstates

theorem Handler.commanding_simulates {left : Handler commandInterface σ} {right : Handler commandInterface τ}
    {R : σ → τ → Prop} (h : left.Simulates right R) (others : Handler deviceInterface υ)
    : (commanding left others).Simulates (commanding right others) fun s t => R s.1 t.1 ∧ s.2 = t.2 := by
  rintro c ⟨s, rest⟩ ⟨t, _⟩ ⟨hstates, rfl⟩
  cases c with
  | exchange x =>
    obtain ⟨hanswer, hafter⟩ := h x s t hstates
    exact ⟨hanswer, hafter, rfl⟩
  | event | now | log => exact ⟨rfl, hstates, rfl⟩

namespace Operation

def performAll (outside : Handler deviceInterface σ)
    : List ((α : Type) × Operation α) → σ → List ((α : Type) × Except Error α) × σ
  | [], s => ([], s)
  | ⟨α, operation⟩ :: rest, s =>
    let (result, s) := operation.run.run outside s
    let (results, s) := performAll outside rest s
    (⟨α, result⟩ :: results, s)

theorem performAll_of_simulates {left : Handler deviceInterface σ} {right : Handler deviceInterface τ}
    {R : σ → τ → Prop} (hsimulates : left.Simulates right R) (operations : List ((α : Type) × Operation α))
    {s : σ} {t : τ} (h : R s t)
    : (performAll left operations s).1 = (performAll right operations t).1
        ∧
      R (performAll left operations s).2 (performAll right operations t).2 := by
  induction operations generalizing s t with
  | nil => exact ⟨rfl, h⟩
  | cons operation rest ih =>
    obtain ⟨hresult, hstates⟩ := Program.run_of_simulates hsimulates operation.2.run h
    obtain ⟨hresults, hafter⟩ := ih hstates
    unfold performAll
    dsimp only
    rw [hresult, hresults]
    exact ⟨rfl, hafter⟩

end Operation

namespace Packet

/--
A character device and the script that its packets amount to, with all that either was asked, the latest first.
-/
structure Mirrors (device : List Bytes × List FileCall)
    (script : List (Nat → Except Error Bytes) × List Exchange) : Prop where
  replies : script.1 = device.1.map reply
  calls : device.2.reverse = script.2.reverse.flatMap callsOf

theorem overFile_simulates : Handler.Simulates (overFile file.traced) scripted.traced Mirrors := by
  rintro x ⟨packets, calls⟩ ⟨replies, exchanges⟩ h
  obtain ⟨hreplies, hcalls⟩ := h
  dsimp only at hreplies hcalls
  subst hreplies
  rw [overFile_file]
  have hnext : (packets.map reply).headD (reply []) = reply (packets.headD []) := by
    cases packets <;> rfl
  refine ⟨?_, ?_, ?_⟩
  . change _ = (packets.map reply).headD (reply []) x.replyLength
    rw [hnext]
  . exact List.map_tail.symm
  . change ((callsOf x).reverse ++ calls).reverse = (x :: exchanges).reverse.flatMap callsOf
    rw [List.reverse_append, List.reverse_reverse, hcalls, List.reverse_cons, List.flatMap_append]
    rw [List.flatMap_singleton]

end Packet
theorem Exchange.frame_eq (x : Exchange) : x.frame = Bytes.ofNat 4 x.command.toNat ++ x.payload := by
  unfold frame
  rw [Bytes.ofFields_cons, Bytes.ofFields_cons, Bytes.ofFields_nil, List.append_nil]
  rfl

theorem Exchange.read_frame (x : Exchange)
    : x.frame.read Read.u32 = x.command ∧ x.frame.drop 4 = x.payload := by
  constructor
  . have hread := Read.reads_u32 x.command x.payload 0
    have hfields : Bytes.ofFields [.u32 x.command] ++ x.payload = x.frame := by
      rw [frame_eq]
      rfl
    rw [hfields] at hread
    exact congrArg Prod.fst hread
  . rw [frame_eq]
    exact List.drop_left' (Bytes.length_ofNat 4 _)

open Packet in
/--
Whatever operations are carried out, they end the same over the character device as over a transport that answers
with what the packets say. The device is asked to take the frame of each command, in their order, and after each
one it is read once. A frame tells its command. A buffer for the reply is filled if the command succeeds, and is
left as it was if not.
-/
theorem char_device_refines_transport (others : Handler deviceInterface σ)
    (operations : List ((α : Type) × Operation α)) (packets : List Bytes) (s : σ)
    : let device := Operation.performAll (.commanding (overFile file.traced) others) operations ((packets, []), s)
      let script := Operation.performAll (.commanding scripted.traced others) operations
        ((packets.map reply, []), s)
      (device.1 = script.1
        ∧
      device.2.2 = script.2.2
        ∧
      device.2.1.1.map reply = script.2.1.1
        ∧
      device.2.1.2.reverse = script.2.1.2.reverse.flatMap fun x => [.write x.frame, .read (4 + x.replyLength)])
        ∧
      (∀ x : Exchange,
        x.frame = Bytes.ofNat 4 x.command.toNat ++ x.payload
          ∧
        x.frame.read Read.u32 = x.command
          ∧
        x.frame.drop 4 = x.payload)
        ∧
      (∀ packet expected data, reply packet expected = .ok data → data.length = expected)
        ∧
      ∀ command payload buffer,
        (∀ {φ : Type} (file : Handler fileInterface φ) (f : φ),
          let x : Exchange := ⟨command, payload, buffer.length⟩
          ((Exchange.fillOverFile command payload).run.run buffer).run file f
            = (Buffered.kept buffer (overFile file x f).1, (overFile file x f).2))
          ∧
        ∀ {τ : Type} (h : Handle) (c : Command) (outside : Handler deviceInterface τ) (t : τ),
          let sent := (h.send c payload buffer.length).run.run outside t
          ((h.sendInto c payload).run.run buffer).run outside t = (Buffered.kept buffer sent.1, sent.2) := by
  intro device script
  have hstart : Mirrors (packets, []) (packets.map reply, []) := ⟨rfl, rfl⟩
  obtain ⟨hresults, hmirrors, hothers⟩ :=
    Operation.performAll_of_simulates (Handler.commanding_simulates overFile_simulates others) operations
      (s := ((packets, []), s)) (t := ((packets.map reply, []), s)) ⟨hstart, rfl⟩
  refine ⟨⟨hresults, hothers, hmirrors.replies.symm, hmirrors.calls⟩, ?_, ?_, ?_⟩
  . intro x
    exact ⟨x.frame_eq, x.read_frame⟩
  . intro packet expected data
    exact length_of_reply_eq_ok
  . intro command payload buffer
    constructor
    . intro φ file f
      exact (Exchange.fillOverFile_fills command payload buffer).run file f
    . intro τ h c outside t
      exact (h.sendInto_fills c payload buffer).run outside t

open Packet Simulation in
/--
A short packet counts as such, though it starts like a failure of the firmware. The next command gets the next
packet.
-/
theorem short_packet_has_no_status
    : let h := Switch.handle {} "switch" 0 .gen4
      let operations : List ((α : Type) × Operation α) := [⟨_, h.echo 5⟩, ⟨_, h.echo 6⟩, ⟨_, h.hardReset⟩]
      let packets : List Bytes := [[0, 0, 0, 0, 1, 2, 3, 4], [1, 0], [1, 0, 0, 0]]
      let device := Operation.performAll (.commanding (overFile file.traced) Switch.device) operations
        ((packets, []), {})
      let script := Operation.performAll (.commanding scripted.traced Switch.device) operations
        ((packets.map reply, []), {})
      device.1 = script.1
        ∧
      script.1 = [⟨UInt32, .ok 0x04030201⟩, ⟨UInt32, .error (.shortTransfer 2 8)⟩, ⟨Unit, .error (.firmware ⟨1⟩)⟩]
        ∧
      ([1, 2, 3, 4] : Bytes).length = 4 := by
  intro h operations packets device script
  obtain ⟨⟨hresults, _⟩, _, hlength, _⟩ :=
    char_device_refines_transport Switch.device operations packets {}
  refine ⟨hresults, ?_, ?_⟩
  . rfl
  . exact hlength [0, 0, 0, 0, 1, 2, 3, 4] 4 [1, 2, 3, 4] (by rfl)

end PcieSwitch
