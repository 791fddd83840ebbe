import PcieSwitch.Proofs.EventWork
import PcieSwitch.Proofs.FeatureChains
import PcieSwitch.Proofs.WindowBounds

/-!
This module contains what is asked of the outside when arguments are out of range, which is nothing, and when
they are not, which is the first command.
-/

namespace PcieSwitch

theorem Operation.ChainedFrom.startsWith {Raises : Error → Prop} {h : Handle} {r : Request}
    {operation : Operation α} (hfrom : ChainedFrom Raises h (some r) operation)
    : operation.StartsWith (r.exchange h.generation) := by
  cases hfrom with
  | request r next hfits _ =>
    apply StartsWith.bind
    exact Handle.request_startsWith hfits

theorem Operation.ChainedFrom.eq_pure {Raises : Error → Prop} {h : Handle} {operation : Operation α}
    (hfrom : ChainedFrom Raises h none operation) : ∃ value, operation = pure value := by
  cases hfrom with
  | nothing value => exact ⟨value, rfl⟩

/--
Arguments that are out of range are refused before anything is asked. For others the first command is sent, and
the operation fails only if one of its commands does. The operations on all ports can still refuse a port, namely
one that the switch itself has listed.
-/
theorem arguments_are_checked_first (h : Handle)
    : (∀ {α : Type} (f : Feature α),
        (∀ e, f.refusal? h.generation = some e → (h.perform f).run = .done (.error e))
          ∧
        (f.refusal? h.generation = none →
          (∀ r, f.firstRequest? = some r → (h.perform f).StartsWith (r.exchange h.generation))
            ∧
          (f.firstRequest? = none → ∃ value, h.perform f = pure value)
            ∧
          ∀ sent e, (h.perform f).Sends sent (.error e) →
            (f.RaisesLater e ∧ ∀ y ∈ sent, ∃ reply, y.2 = .ok reply) ∨ ∃ x, (x, .error e) ∈ sent))
        ∧
      ∀ event index flags timeout,
        (∀ e, refuseIndex event index = some e →
          (h.controlEvent event index flags).run = .done (.error e)
            ∧
          (h.waitFor event index timeout).run = .done (.error e))
          ∧
        (refuseIndex event index = none → h.hasEvents = true →
          (h.controlEvent event index flags).AsksFirst (.event (.control event index flags))
            ∧
          (h.waitFor event index timeout).AsksFirst
            (.event (.control event index (EventFlags.clear ||| EventFlags.enablePoll)))
            ∧
          (h.controlEvent event index flags).AsksEvents (fun _ => False)
            ∧
          (h.waitFor event index timeout).AsksEvents (· = .waitAbandoned h.wakeups)) := by
  constructor
  . intro α f
    constructor
    . intro e hrefused
      rw [h.perform_of_refused hrefused]
      rfl
    . intro haccepted
      have hfrom := h.chainedFrom_perform haccepted
      refine ⟨?_, ?_, ?_⟩
      . intro r hr
        rw [hr] at hfrom
        exact hfrom.startsWith
      . intro hnone
        rw [hnone] at hfrom
        exact hfrom.eq_pure
      . intro sent e hsends
        exact hfrom.chained.raises_or_failed hsends
  . intro event index flags timeout
    constructor
    . intro e hrefused
      rw [Handle.controlEvent_of_refused hrefused, Handle.waitFor_of_refused hrefused]
      exact ⟨rfl, rfl⟩
    . intro haccepted hevents
      have hnever : h.hasEvents = false → False := by
        rw [hevents]
        exact Bool.noConfusion
      refine ⟨?_, ?_, ?_, ?_⟩
      . rw [Handle.controlEvent_of_accepted haccepted]
        exact Handle.askEvents_asksFirst hevents _
      . exact Handle.waitFor_asksFirst haccepted hevents timeout
      . apply Handle.asksEvents_controlEvent haccepted hnever
      . refine Handle.asksEvents_waitFor haccepted timeout ?_ rfl
        intro hno
        exact (hnever hno).elim

open Simulation in
/--
The first of two ports that are out of range is refused, and ports in range are asked for. A reset is refused
by no one but the firmware. No port function is local.
-/
theorem port_behind_the_last_is_refused
    : let h := Switch.handle { events := .reports {} } "switch" 0 .gen5
      let failing : Switch := { commands := .replies [.failure (.firmware ⟨7⟩)] }
      let e : Error := .invalidEventIndex "LINK_STATE" (-1)
      (Feature.bandwidth [3, 48, 50] true).refusal? h.generation = some (.portOutOfRange 48)
        ∧
      (h.perform (.bandwidth [3, 48, 50] true)).run = .done (.error (.portOutOfRange 48))
        ∧
      (Feature.bandwidth [3, 47] true).refusal? h.generation = none
        ∧
      (h.perform (.bandwidth [3, 47] true)).StartsWith ((Request.bandwidth [3, 47] true).exchange .gen5)
        ∧
      (∃ x, (x, .error (.firmware ⟨7⟩)) ∈ (h.perform .hardReset).sent Switch.device failing)
        ∧
      (∃ value, h.perform (.bandwidth [] true) = pure value)
        ∧
      refuseIndex .linkState .localPartition = some e
        ∧
      (h.waitFor .linkState .localPartition none).run = .done (.error e)
        ∧
      (refuseIndex .linkState .all = none ∧ h.hasEvents = true)
        ∧
      (h.waitFor .linkState .all none).AsksFirst (.event (.control .linkState .all 3)) := by
  intro h failing e
  obtain ⟨hfeatures, hevents⟩ := arguments_are_checked_first h
  have hports : (Feature.bandwidth [3, 47] true).refusal? h.generation = none := by decide
  refine ⟨by decide, (hfeatures (.bandwidth [3, 48, 50] true)).1 _ (by decide), hports, ?_, ?_, ?_, ?_⟩
  . exact ((hfeatures (.bandwidth [3, 47] true)).2 hports).1 _ rfl
  . have hsends := Operation.sends_sent Switch.device (h.perform .hardReset) failing
    have hresult : (h.perform .hardReset).result Switch.device failing = .error (.firmware ⟨7⟩) := by rfl
    rw [hresult] at hsends
    rcases ((hfeatures .hardReset).2 rfl).2.2 _ _ hsends with ⟨hraises, _⟩ | hfailed
    . cases hraises
    . exact hfailed
  . exact ((hfeatures (.bandwidth [] true)).2 rfl).2.1 rfl
  . have hplaces := hevents .linkState .localPartition 0 none
    refine ⟨by decide, (hplaces.1 e (by decide)).2, ⟨by decide, by decide⟩, ?_⟩
    exact ((hevents .linkState .all 0 none).2 (by decide) (by decide)).2.1

end PcieSwitch
