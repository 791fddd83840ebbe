import PcieSwitch.Proofs.CounterBank
import PcieSwitch.Proofs.FeatureChains
import PcieSwitch.Proofs.QuietActions

/-!
This module contains the placing of event counters on a switch that stores a setup for each of them. A command that
leaves the choice of the counter open takes the lowest free one of its stack, so counters that count something are never
set up anew.
-/

namespace PcieSwitch

namespace Exchange

def counterSetup (place : CounterPlace) (b : StoredSetup) : Exchange where
  command := Command.performanceMonitor.id
  payload := [2, UInt8.ofNat place.1, UInt8.ofNat place.2, 1] ++ b.data
    ++ Bytes.zeros ((Request.setupSlots - 1) * CounterSetup.wireSize)
  replyLength := 0

def counterQuery (stack : Fin maxStacks) (first count : Nat) : Exchange where
  command := Command.performanceMonitor.id
  payload := [3, UInt8.ofNat stack, UInt8.ofNat first, UInt8.ofNat count, 0]
  replyLength := count * CounterSetup.wireSize

def isCounterSetup (x : Exchange) : Bool :=
  x.command = Command.performanceMonitor.id && x.payload.head? = some 2

end Exchange

theorem Request.exchange_setupCounter (generation : Generation) (place : CounterPlace) (setup : CounterSetup)
    : (setupCounter (UInt8.ofNat place.1) (UInt8.ofNat place.2) setup).exchange generation
        =
      .counterSetup place setup.stored := by
  unfold exchange payload fields
  have hzeros : ∀ n, (Field.zeros n).encode = Bytes.zeros n := fun _ => rfl
  rw [Bytes.ofFields_append, Bytes.ofFields_append]
  simp [command, Exchange.counterSetup, CounterSetup.stored, replyLength, hzeros, MonitorSubcommand.number]

theorem Request.exchange_counterSetups (generation : Generation) (stack : Fin maxStacks) {first count : Nat}
    (hcount : count ≤ maxEventCounters)
    : (counterSetups (UInt8.ofNat stack) (UInt8.ofNat first) (UInt8.ofNat count)).exchange generation
        =
      .counterQuery stack first count := by
  have hsize : (UInt8.ofNat count).toNat = count := UInt8.toNat_ofNat_of_lt' (Nat.lt_of_le_of_lt hcount (by decide))
  unfold exchange payload fields
  simp [command, Exchange.counterQuery, replyLength, hsize, Bool.toUInt8, MonitorSubcommand.number]

theorem refuseCounters_of_le {stack : Fin maxStacks} {counter count : Nat} (hcounter : counter < maxEventCounters)
    (hcount : counter + count ≤ maxEventCounters) : refuseCounters (UInt8.ofNat stack) counter count = none := by
  have hstack : (UInt8.ofNat stack).toNat = stack := UInt8.toNat_ofNat_of_lt' (Nat.lt_trans stack.isLt (by decide))
  refine refuseCounters_of_range ?_ hcounter hcount
  rw [hstack]
  exact stack.isLt

def CounterSetup.allOfReply (reply : Bytes) : List CounterSetup :=
  ofReply maxEventCounters (reply.fit (maxEventCounters * wireSize))

def CounterSetup.freeOfReply? (reply : Bytes) : Option Nat :=
  (allOfReply reply).findIdx? (!·.isConfigured)

theorem CounterSetup.lt_of_freeOfReply? {reply : Bytes} {i : Nat} (h : freeOfReply? reply = some i)
    : i < maxEventCounters := by
  obtain ⟨hi, _⟩ := List.findIdx?_eq_some_iff_getElem.mp h
  have hlength : (allOfReply reply).length = maxEventCounters := Read.length_times _ _ _
  rw [← hlength]
  exact hi

theorem CounterBank.freeOfReply?_entries (bank : CounterBank) (stack : Fin maxStacks)
    : CounterSetup.freeOfReply? (bank.entries stack 0 maxEventCounters)
        =
      (bank.setups stack).findIdx? (!·.isConfigured) := by
  have hall : 0 + maxEventCounters ≤ maxEventCounters := Nat.le_of_eq (Nat.zero_add _)
  unfold CounterSetup.freeOfReply? CounterSetup.allOfReply
  rw [Bytes.fit_eq_self (bank.length_entries stack hall), bank.ofReply_entries stack hall, setupsFrom_zero]

namespace Handle

variable {h : Handle} {stack : Fin maxStacks} {sent : List Sent}

theorem sends_counterSetups {result : Except Error (List CounterSetup)}
    : (h.counterSetups (UInt8.ofNat stack) 0 maxEventCounters).Sends sent result
        ↔
      ∃ answer,
        sent = [(.counterQuery stack 0 maxEventCounters, answer)] ∧ result = answer.map CounterSetup.allOfReply := by
  have haccepted : refuseCounters (UInt8.ofNat stack) 0 maxEventCounters = none :=
    refuseCounters_of_le (by decide) (Nat.le_refl _)
  obtain ⟨hfits, heq⟩ := h.counterSetups_of_accepted haccepted
  rw [heq, sends_request_pure hfits, Request.exchange_counterSetups _ _ (Nat.le_refl _)]
  rfl

theorem sends_setupCounter {counter : Fin maxEventCounters} {setup : CounterSetup} {result : Except Error Unit}
    : (h.setupCounter (UInt8.ofNat stack) counter setup).Sends sent result
        ↔
      ∃ answer, sent = [(.counterSetup (stack, counter) setup.stored, answer)] ∧ result = answer.map fun _ => () := by
  have haccepted : refuseCounters (UInt8.ofNat stack) counter 0 = none :=
    refuseCounters_of_le counter.isLt (Nat.le_of_lt counter.isLt)
  unfold setupCounter
  rw [Operation.ofExcept_accepted_bind (checkCounters_eq _ _ _) haccepted]
  rw [sends_order (Request.fits_of_isFixed rfl), Request.exchange_setupCounter h.generation (stack, counter)]

theorem counterSetups_of_stack {stack : UInt8} (hstack : ¬ stack.toNat < maxStacks)
    : h.counterSetups stack 0 maxEventCounters = throw (.stackOutOfRange stack.toNat) := by
  exact counterSetups_of_refused (refuseCounters_of_stack (Nat.not_lt.mp hstack) _ _)

end Handle

namespace Context

open Session

def placeCounter (h : Handle) (a : SetupArguments) : Session Unit := do
  let counter ← freeCounter h a.stack
  Session.print (Report.counterDetails a.stack counter (setupFor a))
  Session.within "evcntr-setup" (Session.perform (h.setupCounter a.stack counter (setupFor a)))

def sendSetup (h : Handle) (a : SetupArguments) (counter : Nat) : Session Unit := do
  Session.print (Report.counterDetails a.stack counter (setupFor a))
  Session.within "evcntr-setup" (Session.perform (h.setupCounter a.stack counter (setupFor a)))

def setUp (h : Handle) (a : SetupArguments) : Session Unit :=
  match a.counter with
  | some counter => sendSetup h a counter
  | none => placeCounter h a

theorem setUp_of_unplaced (h : Handle) {a : SetupArguments} (hcounter : a.counter = none)
    : setUp h a = placeCounter h a := by
  unfold setUp
  rw [hcounter]

theorem setupCounter_eq (c : Context) (a : SetupArguments)
    : c.setupCounter a
        =
      if (setupFor a).isAmbiguous then throw .thresholdAmbiguous else c.openDevice >>= (setUp · a) := by
  unfold setupCounter setUp
  dsimp only
  split
  . rfl
  . cases a.counter <;> rfl

inductive FindsFree (stack : Fin maxStacks) : List Sent → Except Failure Nat → Prop where
  | failed (cause : Error) (e : Failure) :
    FindsFree stack [(.counterQuery stack 0 maxEventCounters, .error cause)] (.error e)
  | full (reply : Bytes) (e : Failure) (hfree : CounterSetup.freeOfReply? reply = none) :
    FindsFree stack [(.counterQuery stack 0 maxEventCounters, .ok reply)] (.error e)
  | found (reply : Bytes) (counter : Fin maxEventCounters)
    (hfree : CounterSetup.freeOfReply? reply = some counter.val) :
    FindsFree stack [(.counterQuery stack 0 maxEventCounters, .ok reply)] (.ok counter.val)

theorem findsFree_of_shows {h : Handle} {byte : UInt8} {stack : Fin maxStacks} (hstack : byte.toNat = stack)
    {sent : List Sent} {printed : List Bytes} {result : Except Failure Nat}
    (hshows : (freeCounter h byte).Shows sent printed result) : FindsFree stack sent result := by
  obtain rfl : byte = UInt8.ofNat stack := by
    rw [← hstack, UInt8.ofNat_toNat]
  rcases shows_bind.mp hshows with ⟨e, hfail, rfl⟩ | ⟨setups, s₁, s₂, p₁, p₂, rfl, rfl, hquery, hrest⟩
  . obtain ⟨inner, hsends, _, hinner⟩ := shows_within_perform.mp hfail
    obtain ⟨answer, rfl, rfl⟩ := Handle.sends_counterSetups.mp hsends
    cases answer with
    | error cause => exact FindsFree.failed cause e
    | ok _ => cases hinner
  . obtain ⟨inner, hsends, _, hinner⟩ := shows_within_perform.mp hquery
    obtain ⟨answer, rfl, rfl⟩ := Handle.sends_counterSetups.mp hsends
    cases answer with
    | error _ => cases hinner
    | ok reply =>
      have hsetups : setups = CounterSetup.allOfReply reply := Except.ok.inj hinner
      rw [hsetups] at hrest
      split at hrest
      . next i hfree =>
        obtain ⟨rfl, _, rfl⟩ := shows_pure.mp hrest
        exact FindsFree.found reply ⟨i, CounterSetup.lt_of_freeOfReply? hfree⟩ hfree
      . next hfree =>
        obtain ⟨rfl, _, rfl⟩ := shows_throw.mp hrest
        exact FindsFree.full reply _ hfree

theorem nothing_of_shows_freeCounter {h : Handle} {stack : UInt8} (hstack : ¬ stack.toNat < maxStacks)
    {sent : List Sent} {printed : List Bytes} {result : Except Failure Nat}
    (hshows : (freeCounter h stack).Shows sent printed result) : sent = [] ∧ ∃ e, result = .error e := by
  unfold freeCounter at hshows
  rw [Handle.counterSetups_of_stack hstack] at hshows
  rcases shows_bind.mp hshows with ⟨e, hfail, rfl⟩ | ⟨setups, s₁, s₂, p₁, p₂, rfl, rfl, hquery, hrest⟩
  . obtain ⟨inner, hsends, _⟩ := shows_within_perform.mp hfail
    exact ⟨(Operation.sends_throw.mp hsends).1, e, rfl⟩
  . obtain ⟨inner, hsends, _, hinner⟩ := shows_within_perform.mp hquery
    obtain ⟨_, rfl⟩ := Operation.sends_throw.mp hsends
    cases hinner

theorem nothing_of_shows_sendSetup {h : Handle} {a : SetupArguments} {counter : Nat}
    (hrange : ¬ (a.stack.toNat < maxStacks ∧ counter < maxEventCounters)) {sent : List Sent} {printed : List Bytes}
    {result : Except Failure Unit} (hshows : (sendSetup h a counter).Shows sent printed result)
    : sent = [] ∧ ∃ e, result = .error e := by
  obtain ⟨e, hrefused⟩ : ∃ e, refuseCounters a.stack counter 0 = some e := by
    unfold refuseCounters refuseStack refuseRange
    by_cases hstack : maxStacks ≤ a.stack.toNat
    . rw [if_pos hstack]
      exact ⟨_, rfl⟩
    . have hcounter : maxEventCounters ≤ counter := by omega
      rw [if_neg hstack, if_pos (.inl hcounter)]
      exact ⟨_, rfl⟩
  have hthrow : h.setupCounter a.stack counter (setupFor a) = throw e :=
    h.perform_of_refused (f := .setupCounter a.stack counter (setupFor a)) hrefused
  unfold sendSetup at hshows
  rw [hthrow] at hshows
  rcases shows_bind.mp hshows with ⟨_, hprint, _⟩ | ⟨_, s₁, s₂, p₁, p₂, rfl, rfl, hprint, hset⟩
  . obtain ⟨_, _, _, he⟩ := shows_ask.mp hprint
    cases he
  . obtain ⟨_, rfl, _⟩ := shows_ask.mp hprint
    obtain ⟨inner, hsends, _, rfl⟩ := shows_within_perform.mp hset
    obtain ⟨rfl, rfl⟩ := Operation.sends_throw.mp hsends
    exact ⟨rfl, _, rfl⟩

inductive SendsPlacing (a : SetupArguments) : List Sent → Except Failure Unit → Prop where
  | outOfRange (hstack : ¬ a.stack.toNat < maxStacks) (e : Failure) : SendsPlacing a [] (.error e)
  | unfound {stack : Fin maxStacks} (hstack : a.stack.toNat = stack) {sent : List Sent} {e : Failure}
    (hfinds : FindsFree stack sent (.error e)) : SendsPlacing a sent (.error e)
  | found {stack : Fin maxStacks} (hstack : a.stack.toNat = stack) {sent : List Sent}
    {counter : Fin maxEventCounters} (hfinds : FindsFree stack sent (.ok counter.val)) (answer : Except Error Bytes) :
    SendsPlacing a (sent ++ [(.counterSetup (stack, counter) (setupFor a).stored, answer)])
      ((answer.map fun _ => ()).mapError fun cause => .within "evcntr-setup" (.device cause))

theorem sends_of_shows_sendSetup {h : Handle} {a : SetupArguments} {stack : Fin maxStacks}
    (hstack : a.stack.toNat = stack) {counter : Fin maxEventCounters} {sent : List Sent} {printed : List Bytes}
    {result : Except Failure Unit} (hshows : (sendSetup h a counter).Shows sent printed result)
    : ∃ answer,
        sent = [(.counterSetup (stack, counter) (setupFor a).stored, answer)]
          ∧
        result = (answer.map fun _ => ()).mapError fun cause => .within "evcntr-setup" (.device cause) := by
  have hbyte : a.stack = UInt8.ofNat stack := by
    rw [← hstack, UInt8.ofNat_toNat]
  unfold sendSetup at hshows
  rcases shows_bind.mp hshows with ⟨e, hprint, _⟩ | ⟨_, s₁, s₂, p₁, p₂, rfl, rfl, hprint, hset⟩
  . obtain ⟨_, _, _, he⟩ := shows_ask.mp hprint
    cases he
  . obtain ⟨_, rfl, _⟩ := shows_ask.mp hprint
    obtain ⟨inner, hsends, _, rfl⟩ := shows_within_perform.mp hset
    rw [hbyte] at hsends
    obtain ⟨answer, rfl, rfl⟩ := Handle.sends_setupCounter.mp hsends
    exact ⟨answer, rfl, rfl⟩

theorem sendsPlacing_of_shows {h : Handle} {a : SetupArguments} {sent : List Sent} {printed : List Bytes}
    {result : Except Failure Unit} (hshows : (placeCounter h a).Shows sent printed result)
    : SendsPlacing a sent result := by
  unfold placeCounter at hshows
  by_cases hstack : a.stack.toNat < maxStacks
  . obtain ⟨stack, hsame⟩ : ∃ stack : Fin maxStacks, a.stack.toNat = stack := ⟨⟨_, hstack⟩, rfl⟩
    rcases shows_bind.mp hshows with ⟨e, hfail, rfl⟩ | ⟨i, s₁, s₂, p₁, p₂, rfl, rfl, hfind, hrest⟩
    . exact SendsPlacing.unfound hsame (findsFree_of_shows hsame hfail)
    . have hfinds := findsFree_of_shows hsame hfind
      obtain ⟨counter, rfl⟩ : ∃ counter : Fin maxEventCounters, i = counter.val := by
        cases hfinds with
        | found reply counter hfree => exact ⟨counter, rfl⟩
      obtain ⟨answer, rfl, rfl⟩ := sends_of_shows_sendSetup hsame hrest
      exact SendsPlacing.found hsame hfinds answer
  . rcases shows_bind.mp hshows with ⟨e, hfail, rfl⟩ | ⟨i, s₁, s₂, p₁, p₂, rfl, rfl, hfind, _⟩
    . obtain ⟨rfl, _⟩ := nothing_of_shows_freeCounter hstack hfail
      exact SendsPlacing.outOfRange hstack e
    . obtain ⟨_, _, he⟩ := nothing_of_shows_freeCounter hstack hfind
      cases he

/--
What the setting up of a counter sends, and how it ends. A setup is sent for the counter that is named, if there is such
a counter, or for the one that is found.
-/
inductive SendsSetup (a : SetupArguments) : List Sent → Except Failure Unit → Prop where
  | outOfRange {counter : Nat} (hcounter : a.counter = some counter)
    (hrange : ¬ (a.stack.toNat < maxStacks ∧ counter < maxEventCounters)) (e : Failure) : SendsSetup a [] (.error e)
  | named {place : CounterPlace} (hstack : a.stack.toNat = place.1) (hcounter : a.counter = some place.2.val)
    (answer : Except Error Bytes) :
    SendsSetup a [(.counterSetup place (setupFor a).stored, answer)]
      ((answer.map fun _ => ()).mapError fun cause => .within "evcntr-setup" (.device cause))
  | placed (hcounter : a.counter = none) {sent : List Sent} {result : Except Failure Unit}
    (hplacing : SendsPlacing a sent result) : SendsSetup a sent result

theorem sendsSetup_of_shows {h : Handle} {a : SetupArguments} {sent : List Sent} {printed : List Bytes}
    {result : Except Failure Unit} (hshows : (setUp h a).Shows sent printed result) : SendsSetup a sent result := by
  unfold setUp at hshows
  split at hshows
  . next counter hcounter =>
    by_cases hrange : a.stack.toNat < maxStacks ∧ counter < maxEventCounters
    . obtain ⟨place, hstack, rfl⟩ : ∃ place : CounterPlace, a.stack.toNat = place.1 ∧ counter = place.2.val :=
        ⟨(⟨_, hrange.1⟩, ⟨_, hrange.2⟩), rfl, rfl⟩
      obtain ⟨answer, rfl, rfl⟩ := sends_of_shows_sendSetup hstack hshows
      exact SendsSetup.named hstack hcounter answer
    . obtain ⟨rfl, e, rfl⟩ := nothing_of_shows_sendSetup hrange hshows
      exact SendsSetup.outOfRange hcounter hrange e
  . next hcounter => exact SendsSetup.placed hcounter (sendsPlacing_of_shows hshows)

end Context
end PcieSwitch
