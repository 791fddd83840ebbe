import PcieSwitch.Event.Waiting
import PcieSwitch.Proofs.Exchanges
import PcieSwitch.Proofs.Refusals

/-!
This module contains the work on events. It sends no command, and it fails with what the driver answers.
-/

namespace PcieSwitch
namespace Operation

def AsksEvents (Raises : Error → Prop) (operation : Operation α) : Prop :=
  ∀ t result, operation.run.Yields t result →
    t.filterMap Entry.sent? = []
      ∧
    ∀ e, result = .error e → Raises e ∨ ∃ c, (⟨.event c, .error e⟩ : Entry deviceInterface) ∈ t

namespace AsksEvents

variable {Raises : Error → Prop} {operation : Operation α}

theorem pure (value : α) : AsksEvents Raises (Pure.pure value) := by
  intro t result hyields
  obtain ⟨rfl, rfl⟩ := Program.yields_done.mp hyields
  refine ⟨rfl, ?_⟩
  intro e he
  cases he

theorem throw {e : Error} (he : Raises e) : AsksEvents Raises (MonadExcept.throw e : Operation α) := by
  intro t result hyields
  obtain ⟨rfl, rfl⟩ := Program.yields_done.mp hyields
  refine ⟨rfl, ?_⟩
  intro e' he'
  cases he'
  exact .inl he

theorem bind {f : α → Operation β} (h : AsksEvents Raises operation)
    (hf : ∀ value, AsksEvents Raises (f value))
    : AsksEvents Raises (operation >>= f) := by
  intro t result hyields
  rcases Program.yields_run_bind.mp hyields with ⟨e, hfail, rfl⟩ | ⟨value, t₁, t₂, rfl, hfirst, hrest⟩
  . obtain ⟨hsent, herror⟩ := h t _ hfail
    refine ⟨hsent, ?_⟩
    intro e' he'
    cases he'
    exact herror e rfl
  . obtain ⟨hsent, herror⟩ := hf value t₂ result hrest
    refine ⟨?_, ?_⟩
    . rw [List.filterMap_append, (h t₁ _ hfirst).1, hsent, List.nil_append]
    . intro e he
      rcases herror e he with hraises | ⟨c, hc⟩
      . exact .inl hraises
      . exact .inr ⟨c, List.mem_append_right t₁ hc⟩

theorem ask {c : DeviceCall} (hc : ∀ answer, Entry.sent? ⟨c, answer⟩ = none)
    : AsksEvents Raises (Operation.ask c) := by
  intro t result hyields
  obtain ⟨answer, rest, rfl, hrest⟩ := Program.yields_ask.mp hyields
  obtain ⟨rfl, rfl⟩ := Program.yields_done.mp hrest
  refine ⟨?_, ?_⟩
  . rw [List.filterMap_cons, hc]
    rfl
  . intro e he
    cases he

end AsksEvents
end Operation

namespace Handle

open Operation

variable {h : Handle} {Raises : Error → Prop}

theorem asksEvents_askEvents (c : EventCall)
    (hraises : h.hasEvents = false → Raises (.unsupported "switch events"))
    : AsksEvents Raises (h.askEvents c) := by
  unfold askEvents
  split
  . intro t result hyields
    obtain ⟨answer, rest, rfl, hrest⟩ := Program.yields_ask.mp hyields
    obtain ⟨rfl, rfl⟩ := Program.yields_done.mp hrest
    refine ⟨rfl, ?_⟩
    intro e he
    subst he
    exact .inr ⟨c, List.mem_singleton_self _⟩
  . next hevents =>
    apply AsksEvents.throw
    apply hraises
    rw [← Bool.not_eq_true]
    exact hevents

theorem asksEvents_checkEvents (marked : Summary)
    (hraises : h.hasEvents = false → Raises (.unsupported "switch events"))
    : AsksEvents Raises (h.checkEvents marked) := by
  apply AsksEvents.bind (asksEvents_askEvents .summary hraises)
  intro current
  apply AsksEvents.pure

theorem asksEvents_waitMarked (marked : Summary) (timeout : Option Nanoseconds) (start : Nanoseconds)
    (rounds : Nat) (hraises : h.hasEvents = false → Raises (.unsupported "switch events"))
    : AsksEvents Raises (h.waitMarked marked timeout start rounds) := by
  have hnow : AsksEvents Raises now := AsksEvents.ask fun _ => rfl
  have hleft : AsksEvents Raises (waitMarked.left timeout start) := by
    unfold waitMarked.left
    split
    . apply AsksEvents.pure
    . apply hnow.bind
      intro _
      apply AsksEvents.pure
  have hexpired : AsksEvents Raises (waitMarked.expired timeout start) := by
    unfold waitMarked.expired
    split
    . apply AsksEvents.pure
    . apply hnow.bind
      intro _
      apply AsksEvents.pure
  induction rounds with
  | zero => apply AsksEvents.pure
  | succ rounds ih =>
    -- after a wake-up that shows nothing marked, the time decides about another round
    have hagain : AsksEvents Raises (do
        if ← waitMarked.expired timeout start then
          return .timedOut
        h.waitMarked marked timeout start rounds) := by
      apply hexpired.bind
      intro expired
      cases expired with
      | true => apply AsksEvents.pure
      | false => exact ih
    unfold waitMarked
    apply hleft.bind
    intro remaining
    apply AsksEvents.bind (asksEvents_askEvents (.wait remaining) hraises)
    intro woken
    cases woken with
    | false => exact hagain
    | true =>
      apply AsksEvents.bind (asksEvents_checkEvents marked hraises)
      intro shown
      obtain ⟨shows, current⟩ := shown
      cases shows with
      | true => apply AsksEvents.pure
      | false => exact hagain

end Handle

theorem Summary.set_of_accepted {s : Summary} {event : Event} {index : EventIndex}
    (haccepted : refuseIndex event index = none) : ∃ marked, s.set event index = .ok marked := by
  unfold set
  rw [checkIndex_eq, haccepted]
  dsimp only [passUnless, Bind.bind, Except.bind]
  split <;> exact ⟨_, rfl⟩

theorem Summary.set_of_refused {s : Summary} {event : Event} {index : EventIndex} {e : Error}
    (hrefused : refuseIndex event index = some e) : s.set event index = .error e := by
  unfold set
  rw [checkIndex_eq, hrefused]
  rfl

namespace Operation

def AsksFirst (operation : Operation α) (c : DeviceCall) : Prop :=
  ∀ t result, operation.run.Yields t result → ∃ answer rest, t = ⟨c, answer⟩ :: rest

theorem AsksFirst.bind {operation : Operation α} {c : DeviceCall} (h : operation.AsksFirst c)
    (f : α → Operation β)
    : Operation.AsksFirst (operation >>= f) c := by
  intro t result hyields
  rcases Program.yields_run_bind.mp hyields with ⟨e, hfail, _⟩ | ⟨value, t₁, t₂, rfl, hfirst, _⟩
  . exact h t _ hfail
  . obtain ⟨answer, rest, rfl⟩ := h t₁ _ hfirst
    exact ⟨answer, rest ++ t₂, rfl⟩

end Operation

namespace Handle

open Operation

variable {h : Handle} {Raises : Error → Prop} {event : Event} {index : EventIndex} {flags : UInt32}

theorem askEvents_asksFirst (hevents : h.hasEvents = true) (c : EventCall)
    : (h.askEvents c).AsksFirst (.event c) := by
  unfold askEvents
  rw [if_pos hevents]
  intro t result hyields
  obtain ⟨answer, rest, rfl, _⟩ := Program.yields_ask.mp hyields
  exact ⟨answer, rest, rfl⟩

theorem controlEvent_of_refused {e : Error} (hrefused : refuseIndex event index = some e)
    : h.controlEvent event index flags = throw e := by
  exact ofExcept_refused_bind (checkIndex_eq event index) hrefused

theorem controlEvent_of_accepted (haccepted : refuseIndex event index = none)
    : h.controlEvent event index flags = h.askEvents (.control event index flags) := by
  exact ofExcept_accepted_bind (checkIndex_eq event index) haccepted

theorem waitFor_of_refused {timeout : Option Nanoseconds} {e : Error}
    (hrefused : refuseIndex event index = some e)
    : h.waitFor event index timeout = throw e := by
  exact ofExcept_error_bind (Summary.set_of_refused hrefused)

theorem waitFor_asksFirst (haccepted : refuseIndex event index = none) (hevents : h.hasEvents = true)
    (timeout : Option Nanoseconds)
    : (h.waitFor event index timeout).AsksFirst
        (.event (.control event index (EventFlags.clear ||| EventFlags.enablePoll))) := by
  obtain ⟨marked, hmarked⟩ := Summary.set_of_accepted haccepted
  unfold waitFor
  rw [ofExcept_ok_bind hmarked, controlEvent_of_accepted haccepted]
  apply AsksFirst.bind
  apply askEvents_asksFirst hevents

theorem asksEvents_controlEvent (haccepted : refuseIndex event index = none)
    (hraises : h.hasEvents = false → Raises (.unsupported "switch events"))
    : AsksEvents Raises (h.controlEvent event index flags) := by
  rw [controlEvent_of_accepted haccepted]
  apply asksEvents_askEvents _ hraises

theorem asksEvents_waitFor (haccepted : refuseIndex event index = none) (timeout : Option Nanoseconds)
    (hraises : h.hasEvents = false → Raises (.unsupported "switch events"))
    (habandoned : Raises (.waitAbandoned h.wakeups))
    : AsksEvents Raises (h.waitFor event index timeout) := by
  obtain ⟨marked, hmarked⟩ := Summary.set_of_accepted haccepted
  unfold waitFor
  rw [ofExcept_ok_bind hmarked]
  apply AsksEvents.bind (asksEvents_controlEvent haccepted hraises)
  intro _
  apply AsksEvents.bind (AsksEvents.ask fun _ => rfl)
  intro _
  apply AsksEvents.bind (AsksEvents.ask fun _ => rfl)
  intro start
  apply AsksEvents.bind (asksEvents_waitMarked marked timeout start h.wakeups hraises)
  intro outcome
  cases outcome with
  | occurred s => apply AsksEvents.pure
  | timedOut => apply AsksEvents.pure
  | abandoned => apply AsksEvents.throw habandoned

end Handle
end PcieSwitch
