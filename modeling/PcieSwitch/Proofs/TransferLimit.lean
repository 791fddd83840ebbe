import PcieSwitch.CharDevice.Events
import PcieSwitch.CharDevice.Packet
import PcieSwitch.Proofs.EventWork
import PcieSwitch.Proofs.FeatureChains
import PcieSwitch.Simulation.Switch

/-!
This module contains the proof that no operation makes a command that is too large. So none fails for the size
of a command, unless what it is answered says so.
-/

namespace PcieSwitch

def Error.isTooLarge : Error → Bool
  | .requestTooLarge _ | .replyTooLarge _ => true
  | _ => false

theorem Error.isTooLarge_of_isArgument {e : Error} (h : e.isArgument = true) : e.isTooLarge = false := by
  cases e with
  | requestTooLarge | replyTooLarge => cases h
  | _ => rfl

def FailsWith (P : Error → Prop) (work : ExceptT Error (Program I) α) : Prop :=
  ∀ t e, work.run.Yields t (.error e) → P e

namespace FailsWith

variable {I : Interface} {P : Error → Prop} {work : ExceptT Error (Program I) α}

theorem ofExcept {result : Except Error α} (h : ∀ e, result = .error e → P e)
    : FailsWith P (ofExcept result : ExceptT Error (Program I) α) := by
  intro t e hyields
  cases result with
  | ok value => cases (Program.yields_done.mp hyields).2
  | error e' =>
    cases (Program.yields_done.mp hyields).2
    exact h e rfl

theorem throw {e : Error} (he : P e)
    : FailsWith P (MonadExcept.throw e : ExceptT Error (Program I) α) := by
  intro t e' hyields
  cases (Program.yields_done.mp hyields).2
  exact he

theorem pure (value : α) : FailsWith P (Pure.pure value : ExceptT Error (Program I) α) := by
  intro t e hyields
  cases (Program.yields_done.mp hyields).2

theorem bind {f : α → ExceptT Error (Program I) β} (h : FailsWith P work)
    (hf : ∀ value, FailsWith P (f value))
    : FailsWith P (work >>= f) := by
  intro t e hyields
  rcases Program.yields_run_bind.mp hyields with ⟨e', hfail, he⟩ | ⟨value, t₁, t₂, _, _, hrest⟩
  . cases he
    exact h t e hfail
  . exact hf value t₂ e hrest

theorem call (c : I.Call)
    : FailsWith P (ExceptT.lift (Program.call c) : ExceptT Error (Program I) (I.Answer c)) := by
  intro t e hyields
  obtain ⟨answer, rest, _, hrest⟩ := Program.yields_ask.mp hyields
  cases (Program.yields_done.mp hrest).2

theorem tryCatch {other : Error → ExceptT Error (Program I) α} (hother : ∀ e, FailsWith P (other e))
    : FailsWith P (tryCatch work other) := by
  intro t e hyields
  obtain ⟨result, t₁, t₂, _, _, hrest⟩ := Program.yields_bind.mp hyields
  cases result with
  | ok value => cases (Program.yields_done.mp hrest).2
  | error e' => exact hother e' t₂ e hrest

theorem of_run {outside : Handler I σ} {s : σ} {e : Error} (h : FailsWith P work)
    (hrun : (work.run.run outside s).1 = .error e) : P e := by
  have hyields := Program.yields_transcript outside work.run s
  rw [hrun] at hyields
  exact h _ e hyields

end FailsWith

namespace FileWork

variable {P : Error → Prop}

theorem failsWith_wrap (hsystem : ∀ cause, P (.system cause)) (answer : Except SystemError α)
    : FailsWith P (ofExcept (wrap answer) : FileWork α) := by
  apply FailsWith.ofExcept
  intro e he
  cases answer with
  | ok value => cases he
  | error cause =>
    cases he
    exact hsystem cause

theorem failsWith_call (hsystem : ∀ cause, P (.system cause)) (c : FileCall)
    (f : c.Answer → Except SystemError α)
    : FailsWith P (do ofExcept (wrap (f (← Program.call (I := fileInterface) c))) : FileWork α) := by
  apply FailsWith.bind
  . apply FailsWith.call
  . intro answer
    apply failsWith_wrap hsystem

end FileWork

theorem Exchange.failsWith_ofPacket (x : Exchange) (packet : Bytes)
    : FailsWith (·.isTooLarge = false) (ofExcept (x.ofPacket packet) : FileWork Bytes) := by
  apply FailsWith.ofExcept
  intro e he
  unfold ofPacket at he
  dsimp only at he
  split at he
  . cases he
    rfl
  . split at he
    . cases he
      rfl
    . cases he

theorem Exchange.failsWith_overFile (x : Exchange) : FailsWith (·.isTooLarge = false) x.overFile := by
  have hread : FailsWith (·.isTooLarge = false) (do ofExcept (x.ofPacket (← FileWork.read x.packetLength))) := by
    apply FailsWith.bind
    . exact FileWork.failsWith_call (fun _ => rfl) (.read x.packetLength) id
    . intro packet
      apply failsWith_ofPacket
  unfold overFile
  apply FailsWith.bind
  . exact FileWork.failsWith_call (fun _ => rfl) (.write x.frame) id
  . intro written
    dsimp only
    split
    . apply FailsWith.bind
      . apply FailsWith.throw
        rfl
      . intro _
        exact hread
    . exact hread

theorem FileWork.failsWith_control (c : Ioctl) (data : Bytes)
    : FailsWith (·.isTooLarge = false) (control c data) := by
  exact failsWith_call (fun _ => rfl) (.control c data) (·.mapError SystemError.known)

theorem EventCall.failsWith_overFile (c : EventCall) : FailsWith (·.isTooLarge = false) c.overFile := by
  cases c with
  | summary =>
    apply FailsWith.tryCatch
    intro e
    apply FailsWith.bind
    . apply FileWork.failsWith_control
    . intro data
      apply FailsWith.pure
  | control | portOf | functionOf =>
    apply FailsWith.bind
    . apply FileWork.failsWith_control
    . intro data
      apply FailsWith.pure
  | wait timeout =>
    unfold overFile waitOverFile
    dsimp only
    apply FailsWith.bind
    . exact FileWork.failsWith_call (fun _ => rfl) (.poll urgent (pollTime timeout)) id
    . intro answer
      split
      . apply FailsWith.pure
      . split
        . apply FailsWith.bind
          . apply FailsWith.throw
            rfl
          . intro _
            apply FailsWith.pure
        . apply FailsWith.pure

namespace Handle

variable {h : Handle}

theorem isTooLarge_of_sends_perform {f : Feature α} {sent : List Sent} {e : Error}
    (hsends : (h.perform f).Sends sent (.error e)) (he : e.isTooLarge = true)
    : ∃ x, (x, .error e) ∈ sent := by
  cases hrefusal : f.refusal? h.generation with
  | some e' =>
    rw [h.perform_of_refused hrefusal] at hsends
    cases (Operation.sends_throw.mp hsends).2
    rw [Error.isTooLarge_of_isArgument (f.isArgument_of_refusal e hrefusal)] at he
    cases he
  | none =>
    rcases (h.chainedFrom_perform hrefusal).chained.raises_or_failed hsends with ⟨hraises, _⟩ | hfailed
    . rw [Error.isTooLarge_of_isArgument (f.isArgument_of_raisesLater hraises)] at he
      cases he
    . exact hfailed

theorem fits_of_sends_perform {f : Feature α} {sent : List Sent} {result : Except Error α}
    (hsends : (h.perform f).Sends sent result)
    : ∀ y ∈ sent, y.1.payload.length ≤ maxDataLength ∧ y.1.replyLength ≤ maxDataLength := by
  cases hrefusal : f.refusal? h.generation with
  | some e =>
    rw [h.perform_of_refused hrefusal] at hsends
    rw [(Operation.sends_throw.mp hsends).1]
    apply List.forall_mem_nil
  | none => exact (h.chainedFrom_perform hrefusal).chained.fits hsends

theorem asksEvents_waitCounters (timeout : Option Nanoseconds)
    : (h.waitCounters timeout).AsksEvents (·.isTooLarge = false) := by
  unfold waitCounters
  apply Operation.AsksEvents.bind
  . apply asksEvents_waitFor rfl timeout
    . intro _
      rfl
    . rfl
  . intro summary
    apply Operation.AsksEvents.pure

theorem send_of_too_large {c : Command} {payload : Bytes} {replyLength : Nat}
    (hlarge : ¬ (payload.length ≤ maxDataLength ∧ replyLength ≤ maxDataLength))
    : h.send c payload replyLength
        =
      throw (if maxDataLength < payload.length then .requestTooLarge payload.length
        else .replyTooLarge replyLength) := by
  unfold send
  by_cases hpayload : maxDataLength < payload.length
  . rw [if_pos hpayload, if_pos hpayload]
    rfl
  . have hreply : maxDataLength < replyLength := by omega
    rw [if_neg hpayload, if_neg hpayload, if_pos hreply]
    rfl

end Handle

/--
No operation hands over a command that is too large in either direction, and none fails for the size of a
command unless a command was answered so, which the character device never does. A command of the caller's own
is handed over, once, exactly if it is not too large. Otherwise nothing is asked.
-/
theorem commands_keep_to_the_limit (h : Handle) (outside : Handler deviceInterface σ) (s : σ)
    : (∀ {α : Type} (f : Feature α),
        (∀ y ∈ (h.perform f).sent outside s,
          y.1.payload.length ≤ maxDataLength ∧ y.1.replyLength ≤ maxDataLength)
          ∧
        ∀ e, (h.perform f).result outside s = .error e → e.isTooLarge = true →
          ∃ x, (x, .error e) ∈ (h.perform f).sent outside s)
        ∧
      (∀ timeout,
        (h.waitCounters timeout).sent outside s = []
          ∧
        ∀ e, (h.waitCounters timeout).result outside s = .error e → e.isTooLarge = true →
          ∃ c, (⟨.event c, .error e⟩ : Entry deviceInterface)
            ∈ (h.waitCounters timeout).run.transcript outside s)
        ∧
      (∀ {τ : Type} (file : Handler fileInterface τ) (t : τ),
        (∀ (x : Exchange) e, (x.overFile.run.run file t).1 = .error e → e.isTooLarge = false)
          ∧
        ∀ (c : EventCall) e, (c.overFile.run.run file t).1 = .error e → e.isTooLarge = false)
        ∧
      ∀ c payload replyLength,
        (payload.length ≤ maxDataLength ∧ replyLength ≤ maxDataLength →
          ∃ answer,
            (h.send c payload replyLength).sent outside s = [(⟨c.id, payload, replyLength⟩, answer)]
              ∧
            (h.send c payload replyLength).result outside s = answer.map (·.fit replyLength))
          ∧
        (¬ (payload.length ≤ maxDataLength ∧ replyLength ≤ maxDataLength) →
          (h.send c payload replyLength).run
            = .done (.error (if maxDataLength < payload.length then .requestTooLarge payload.length
                else .replyTooLarge replyLength))) := by
  refine ⟨?_, ?_, ?_, ?_⟩
  . intro α f
    have hsends := Operation.sends_sent outside (h.perform f) s
    refine ⟨Handle.fits_of_sends_perform hsends, ?_⟩
    intro e he hlarge
    rw [he] at hsends
    exact Handle.isTooLarge_of_sends_perform hsends hlarge
  . intro timeout
    obtain ⟨hsent, herror⟩ := Handle.asksEvents_waitCounters timeout _ _
      (Program.yields_transcript outside (h.waitCounters timeout).run s)
    refine ⟨hsent, ?_⟩
    intro e he hlarge
    rcases herror e he with hnot | hasked
    . rw [hnot] at hlarge
      cases hlarge
    . exact hasked
  . intro τ file t
    constructor
    . intro x e hrun
      exact x.failsWith_overFile.of_run hrun
    . intro c e hrun
      exact c.failsWith_overFile.of_run hrun
  . intro c payload replyLength
    constructor
    . intro ⟨hpayload, hreply⟩
      exact (Handle.sends_send hpayload hreply).mp (Operation.sends_sent outside _ s)
    . intro hlarge
      rw [Handle.send_of_too_large hlarge]
      rfl

open Simulation in
/--
A byte more than the most is not sent. What a switch answers of its own accord is passed on.
-/
theorem command_of_1025_bytes_is_not_sent
    : let h := Switch.handle { events := .reports {} } "switch" 0 .gen4
      let e : Error := .requestTooLarge 7
      let odd : Switch := { commands := .replies [.failure e], events := .reports { counts := [.error e] } }
      let broken : Switch := { commands := .packets [], events := .kernel [] }
      let x : Exchange := ⟨27, [0, 0, 0, 0], 0⟩
      (∃ x, (x, .error e) ∈ (h.perform .hardReset).sent Switch.device odd)
        ∧
      (∃ c, (⟨.event c, .error e⟩ : Entry deviceInterface)
        ∈ (h.waitCounters none).run.transcript Switch.device odd)
        ∧
      ((x.overFile.run.run Switch.file broken).1 = .error (.shortTransfer 0 4)
        ∧ (Error.shortTransfer 0 4).isTooLarge = false)
        ∧
      (∃ answer, (h.send .echo (.zeros 1024) 1024).sent Switch.device odd = [(⟨65, .zeros 1024, 1024⟩, answer)])
        ∧
      (h.send .echo (.zeros 1025) 1024).run = .done (.error (.requestTooLarge 1025)) := by
  intro h e odd broken x
  obtain ⟨hperform, hwait, hfile, hsend⟩ := commands_keep_to_the_limit h Switch.device odd
  refine ⟨?_, ?_, ?_, ?_, ?_⟩
  . exact (hperform .hardReset).2 e rfl rfl
  . exact (hwait none).2 e rfl rfl
  . have hshort : (x.overFile.run.run Switch.file broken).1 = .error (.shortTransfer 0 4) := by rfl
    exact ⟨hshort, (hfile Switch.file broken).1 x _ hshort⟩
  . obtain ⟨answer, hsent, _⟩ := (hsend .echo (.zeros 1024) 1024).1 (by decide +kernel)
    exact ⟨answer, hsent⟩
  . have hlength : (Bytes.zeros 1025).length = 1025 := List.length_replicate
    have hrefused := (hsend .echo (.zeros 1025) 1024).2
    rw [hlength] at hrefused
    exact hrefused (by decide)

end PcieSwitch
