import PcieSwitch.Proofs.PendingEvents
import PcieSwitch.Proofs.WaitRounds
import PcieSwitch.Simulation.Switch

/-!
This module contains the waiting for an event. The driver is prepared for it, and then there are rounds until a summary
has the event pending.
-/

namespace PcieSwitch
namespace Handle

open Operation

def conclude (h : Handle) : WaitOutcome → Except Error (Option Summary)
  | .occurred s => .ok (some s)
  | .timedOut => .ok none
  | .abandoned => .error (.waitAbandoned h.wakeups)

abbrev preparation (event : Event) (index : EventIndex) : EventCall :=
  .control event index (EventFlags.clear ||| EventFlags.enablePoll)

def opening (h : Handle) (event : Event) (index : EventIndex) (count : UInt32) (start : Nanoseconds)
    : List (Entry deviceInterface) :=
  [
    ⟨.event (preparation event index), .ok count⟩,
    ⟨.log ⟨"waiting for event", [
      ("device", h.name),
      ("event", event.driverName),
      ("index", toString index.code)
    ]⟩, ()⟩,
    ⟨.now, start⟩
  ]

inductive Awaits (h : Handle) (event : Event) (index : EventIndex) (timeout : Option Nanoseconds)
    : List (Entry deviceInterface) → Except Error (Option Summary) → Prop where
  | refused (e : Error) : Awaits h event index timeout [⟨.event (preparation event index), .error e⟩] (.error e)
  | started (count : UInt32) (start : Nanoseconds) :
    Watch.Runs ⟨(·.Pending event index), timeout, start⟩ h.wakeups t outcome →
    Awaits h event index timeout (h.opening event index count start ++ t) (outcome.bind h.conclude)

variable {h : Handle} {t : List (Entry deviceInterface)} {event : Event} {index : EventIndex}
  {timeout : Option Nanoseconds} {result : Except Error (Option Summary)}

theorem bind_conclude_eq_some_iff {outcome : Except Error WaitOutcome} {s : Summary}
    : outcome.bind h.conclude = .ok (some s) ↔ outcome = .ok (.occurred s) := by
  cases outcome with
  | error e => simp [Except.bind]
  | ok o => cases o <;> simp [Except.bind, conclude]

theorem bind_conclude_eq_none_iff {outcome : Except Error WaitOutcome}
    : outcome.bind h.conclude = .ok none ↔ outcome = .ok .timedOut := by
  cases outcome with
  | error e => simp [Except.bind]
  | ok o => cases o <;> simp [Except.bind, conclude]

theorem waitFor_eq : h.waitFor event index timeout = (do
    let marked ← ofExcept (Summary.empty.set event index)
    let _ ← h.controlEvent event index (EventFlags.clear ||| EventFlags.enablePoll)
    h.log "waiting for event" [("event", event.driverName), ("index", toString index.code)]
    let start ← now
    let outcome ← h.waitMarked marked timeout start h.wakeups
    ofExcept (h.conclude outcome)) := by
  unfold waitFor
  refine bind_congr fun marked => bind_congr fun _ => bind_congr fun _ => bind_congr fun start => ?_
  refine bind_congr fun outcome => ?_
  cases outcome <;> rfl

theorem yields_waitFor_iff (hevents : h.hasEvents = true) (haccepted : EventIndex.check event index = .ok ())
    : (h.waitFor event index timeout).run.Yields t result ↔ h.Awaits event index timeout t result := by
  have hrefusal : refuseIndex event index = none := checkIndex_eq_ok_iff.mp haccepted
  obtain ⟨marked, hmarked⟩ := Summary.set_of_accepted hrefusal
  have hruns : ∀ {start rest outcome},
      (h.waitMarked marked timeout start h.wakeups).run.Yields rest outcome
        ↔
      Watch.Runs ⟨(·.Pending event index), timeout, start⟩ h.wakeups rest outcome :=
    fun {start} => yields_waitMarked_iff (w := ⟨(·.Pending event index), timeout, start⟩) hevents
      (Summary.intersects_iff hmarked)
  rw [waitFor_eq, ofExcept_ok_bind hmarked, controlEvent_of_accepted hrefusal, yields_askEvents_bind hevents]
  constructor
  . rintro (⟨e, rfl, rfl⟩ | ⟨count, _, rfl, hlog⟩)
    . exact .refused e
    . obtain ⟨⟨⟩, _, rfl, hnow⟩ := yields_ask_bind.mp hlog
      obtain ⟨start, _, rfl, hrounds⟩ := yields_ask_bind.mp hnow
      obtain ⟨outcome, hyields, rfl⟩ := yields_bind_ofExcept.mp hrounds
      exact .started count start (hruns.mp hyields)
  . intro hawaits
    cases hawaits with
    | refused e => exact .inl ⟨e, rfl, rfl⟩
    | started count start hrounds =>
      refine .inr ⟨count, _, rfl, yields_ask_bind.mpr ⟨(), _, rfl, yields_ask_bind.mpr ⟨start, _, rfl, ?_⟩⟩⟩
      exact yields_bind_ofExcept.mpr ⟨_, hruns.mpr hrounds, rfl⟩

theorem failure_not_mem_opening {count : UInt32} {start : Nanoseconds} {c : EventCall} {e : Error}
    : ⟨.event c, .error e⟩ ∉ h.opening event index count start := by
  unfold opening
  intro hmem
  simp only [List.mem_cons, List.not_mem_nil, or_false] at hmem
  rcases hmem with hmem | hmem | hmem <;> cases hmem

namespace Awaits

theorem control (hawaits : h.Awaits event index timeout t result)
    : ∃ answer rest, t = ⟨.event (preparation event index), answer⟩ :: rest
        ∧
      ∀ event index flags answer, ⟨.event (.control event index flags), answer⟩ ∉ rest := by
  cases hawaits with
  | refused e => exact ⟨_, [], rfl, fun _ _ _ _ => List.not_mem_nil⟩
  | started count start hruns =>
    refine ⟨_, _, rfl, ?_⟩
    intro event index flags answer hmem
    rcases List.mem_append.mp hmem with hopening | hrounds
    . simp only [List.mem_cons, List.not_mem_nil, or_false] at hopening
      rcases hopening with hopening | hopening <;> cases hopening
    . exact hruns.control_not_mem hrounds

theorem summaries (hawaits : h.Awaits event index timeout t result)
    : (∀ s, result = .ok (some s) ↔ (t.filterMap Entry.summary?).getLast? = some s ∧ s.Pending event index)
        ∧
      ∀ s ∈ (t.filterMap Entry.summary?).dropLast, ¬s.Pending event index := by
  cases hawaits with
  | refused e => exact ⟨fun s => ⟨nofun, nofun⟩, nofun⟩
  | @started _ outcome count start hruns =>
    have hopening : (h.opening event index count start).filterMap Entry.summary? = [] := rfl
    simp only [bind_conclude_eq_some_iff]
    rw [List.filterMap_append, hopening, List.nil_append]
    obtain ⟨missed, hmissed, ⟨s, rfl, hshows, ht⟩ | ⟨houtcome, ht⟩⟩ := hruns.summaries
    . rw [ht, List.getLast?_concat, List.dropLast_concat]
      refine ⟨?_, hmissed⟩
      intro s'
      constructor
      . rintro ⟨⟩
        exact ⟨rfl, hshows⟩
      . rintro ⟨⟨⟩, _⟩
        rfl
    . rw [ht]
      refine ⟨?_, fun s hs => hmissed s (List.dropLast_subset _ hs)⟩
      intro s
      constructor
      . intro hs
        exact absurd hs (houtcome s)
      . rintro ⟨hlast, hpending⟩
        exact absurd hpending (hmissed s (List.mem_of_getLast? hlast))

theorem passed (hawaits : h.Awaits event index timeout t (.ok none))
    : ∃ limit start reading, timeout = some limit ∧ (t.filterMap Entry.reading?).head? = some start
        ∧ (t.filterMap Entry.reading?).getLast? = some reading ∧ limit ≤ reading - start := by
  generalize hresult : Except.ok none = result at hawaits
  cases hawaits with
  | refused e => cases hresult
  | @started _ outcome count start hruns =>
    have hopening : (h.opening event index count start).filterMap Entry.reading? = [start] := rfl
    obtain rfl := bind_conclude_eq_none_iff.mp hresult.symm
    obtain ⟨reading, hpassed, hlast⟩ := hruns.passed_of_timedOut
    obtain ⟨limit, rfl, hlimit⟩ := (Option.any_eq_true _ _).mp hpassed
    refine ⟨limit, start, reading, rfl, ?_, ?_, of_decide_eq_true hlimit⟩
    . rw [List.filterMap_append, hopening]
      rfl
    . rw [List.filterMap_append, List.getLast?_append, hlast]
      rfl

theorem countP_isWait_of_zero (hawaits : h.Awaits event index (some 0) t result) (hwakeups : 0 < h.wakeups)
    {count : UInt32} (hprepared : ⟨.event (preparation event index), .ok count⟩ ∈ t)
    : t.countP Entry.isWait = 1 := by
  cases hawaits with
  | refused e => cases List.mem_singleton.mp hprepared
  | started count start hruns =>
    obtain ⟨n, hn⟩ := Nat.exists_eq_add_of_lt hwakeups
    rw [Nat.zero_add] at hn
    rw [hn] at hruns
    exact hruns.countP_isWait_of_zero rfl

theorem last_of_failure {before after : List (Entry deviceInterface)} {c : EventCall} {e : Error}
    (hawaits : h.Awaits event index timeout t result) (ht : t = before ++ ⟨.event c, .error e⟩ :: after)
    : after = [] ∧ result = .error e := by
  cases hawaits with
  | refused e' =>
    have hlast : before ++ ⟨.event c, .error e⟩ :: after = [] ++ [⟨.event (preparation event index), .error e'⟩] :=
      ht.symm
    obtain ⟨hafter, rfl⟩ := Entry.eq_of_last_failure hlast fun _ _ => List.not_mem_nil
    exact ⟨hafter, rfl⟩
  | started count start hruns =>
    rcases hruns.answered with ⟨_, _, hanswered⟩ | ⟨answered, d, e', rfl, rfl, hanswered, _⟩
    . have hmem := ht ▸ List.mem_append_right before List.mem_cons_self
      rcases List.mem_append.mp hmem with hopening | hrounds
      . exact absurd hopening failure_not_mem_opening
      . cases hanswered _ hrounds
    . have hearlier : ∀ c e, ⟨.event c, .error e⟩ ∉ h.opening event index count start ++ answered := by
        intro c e hmem
        rcases List.mem_append.mp hmem with hopening | hrounds
        . exact failure_not_mem_opening hopening
        . cases hanswered _ hrounds
      rw [← List.append_assoc] at ht
      obtain ⟨hafter, rfl⟩ := Entry.eq_of_last_failure ht.symm hearlier
      exact ⟨hafter, rfl⟩

theorem more (hawaits : h.Awaits event index timeout t result) (hresult : result ≠ .error (.waitAbandoned h.wakeups))
    (more : Nat) : Awaits { h with wakeups := h.wakeups + more } event index timeout t result := by
  cases hawaits with
  | refused e => exact .refused e
  | @started _ outcome count start hruns =>
    have houtcome : outcome ≠ .ok .abandoned := by
      rintro rfl
      exact hresult rfl
    have hconclude : outcome.bind h.conclude = outcome.bind (conclude { h with wakeups := h.wakeups + more }) := by
      cases outcome with
      | error e => rfl
      | ok o => cases o <;> first | rfl | contradiction
    rw [hconclude]
    exact .started count start (hruns.more houtcome more)

end Awaits
end Handle

open Handle in
/--
Waiting for an event prepares the driver once, before all else. Then there are rounds of a wait for what is left of
the timeout, a summary exactly if the switch woke up, and a look at the clock. The first summary in which the event
is pending is returned, and nothing if the timeout has passed. The first failure is the result. How many wake-ups a
wait sits through matters only if it is given up.
-/
theorem waiting_ends_with_first_pending (h : Handle) (hevents : h.hasEvents = true) {event : Event}
    {index : EventIndex} (haccepted : EventIndex.check event index = .ok ()) (timeout : Option Nanoseconds)
    (outside : Handler deviceInterface σ) (state : σ)
    : let t := (h.waitFor event index timeout).run.transcript outside state
      let result := (h.waitFor event index timeout).result outside state
      let summaries := t.filterMap Entry.summary?
      let readings := t.filterMap Entry.reading?
      h.Awaits event index timeout t result
        ∧
      (∃ answer rest, t = ⟨.event (preparation event index), answer⟩ :: rest
        ∧ ∀ event index flags answer, ⟨.event (.control event index flags), answer⟩ ∉ rest)
        ∧
      (∀ s, result = .ok (some s) ↔ summaries.getLast? = some s ∧ s.Pending event index)
        ∧
      (∀ s ∈ summaries.dropLast, ¬s.Pending event index)
        ∧
      (result = .ok none →
        ∃ limit start reading,
          timeout = some limit ∧ readings.head? = some start ∧ readings.getLast? = some reading
            ∧ limit ≤ reading - start)
        ∧
      (timeout = some 0 → 0 < h.wakeups → (∃ count, ⟨.event (preparation event index), .ok count⟩ ∈ t) →
        t.countP Entry.isWait = 1)
        ∧
      (∀ before c e after, t = before ++ ⟨.event c, .error e⟩ :: after → after = [] ∧ result = .error e)
        ∧
      (result ≠ .error (.waitAbandoned h.wakeups) →
        ∀ more, let longer := { h with wakeups := h.wakeups + more }
          (longer.waitFor event index timeout).run.transcript outside state = t
            ∧ (longer.waitFor event index timeout).result outside state = result) := by
  intro t result summaries readings
  have hyields : (h.waitFor event index timeout).run.Yields t result := Program.yields_transcript outside _ state
  have hawaits := (yields_waitFor_iff hevents haccepted).mp hyields
  obtain ⟨hlast, hearlier⟩ := hawaits.summaries
  refine ⟨hawaits, hawaits.control, hlast, hearlier, ?_, ?_, ?_, ?_⟩
  . intro hnone
    rw [hnone] at hawaits
    exact hawaits.passed
  . rintro rfl hwakeups ⟨count, hprepared⟩
    exact hawaits.countP_isWait_of_zero hwakeups hprepared
  . intro before c e after ht
    exact hawaits.last_of_failure ht
  . intro hresult more longer
    have hlonger := (yields_waitFor_iff (h := longer) hevents haccepted).mpr (hawaits.more hresult more)
    exact Program.run_of_yields_transcript hlonger

open Handle Simulation in
/--
A switch wakes up for one event, and then for the one that is waited for. Without any time it is only waited for
once.
-/
theorem other_event_does_not_end_the_wait
    : let other : Summary := { Summary.empty with functions := Summary.empty.functions.set 5 4096 }
      let hit : Summary := { Summary.empty with functions := Summary.empty.functions.set 5 128 }
      let script : EventScript := { waits := [.ok false, .ok true, .ok true], summaries := [.ok other, .ok hit] }
      let switch : Switch := { events := .reports script }
      let h := switch.handle "switch" 0 .gen4
      let t := (h.waitFor .counterThreshold .all none).run.transcript Switch.device switch
      t.filterMap Entry.summary? = [other, hit]
        ∧
      (h.waitFor .counterThreshold .all none).result Switch.device switch = .ok (some hit)
        ∧
      ¬other.Pending .counterThreshold .all
        ∧
      ((h.waitFor .counterThreshold .all (some 0)).run.transcript Switch.device switch).countP Entry.isWait = 1 := by
  intro other hit script switch h t
  have hshown : t.filterMap Entry.summary? = [other, hit] := by
    dsimp only [t, h, switch, script, other, hit]
    decide +kernel
  have hpending : hit.Pending .counterThreshold .all := ⟨5, by decide, 128, rfl, rfl⟩
  have haccepted : EventIndex.check .counterThreshold .all = .ok () := rfl
  obtain ⟨_, _, hlast, hearlier, _⟩ := waiting_ends_with_first_pending h rfl haccepted none Switch.device switch
  obtain ⟨_, _, _, _, _, hzero, _⟩ := waiting_ends_with_first_pending h rfl haccepted (some 0) Switch.device switch
  refine ⟨hshown, (hlast hit).mpr ⟨?_, hpending⟩, hearlier other ?_, hzero rfl (by decide) ⟨0, ?_⟩⟩
  . change (t.filterMap Entry.summary?).getLast? = some hit
    rw [hshown]
    rfl
  . change other ∈ (t.filterMap Entry.summary?).dropLast
    rw [hshown]
    exact List.mem_singleton_self other
  . exact List.mem_cons_self

open Simulation in
/--
There are summaries with more words than there can be port functions. No event is waited for in those behind.
-/
theorem event_behind_the_last_port_is_missed
    : let s : Summary := { Summary.empty with functions := List.replicate 255 0 ++ [128] }
      let script : EventScript := { waits := [.ok true], summaries := [.ok s] }
      let switch : Switch := { events := .reports script }
      let operation := (switch.handle "switch" 0 .gen4).waitFor .counterThreshold .all (some 0)
      (∃ i, s.Marks .counterThreshold i)
        ∧
      (operation.run.transcript Switch.device switch).filterMap Entry.summary? = [s]
        ∧
      operation.result Switch.device switch = .ok none := by
  intro s script switch operation
  dsimp only [operation, switch, script, s]
  refine ⟨⟨255, 128, ?_, ?_⟩, ?_, ?_⟩ <;> decide +kernel

end PcieSwitch
