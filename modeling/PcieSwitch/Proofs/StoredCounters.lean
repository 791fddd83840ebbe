import PcieSwitch.CommandLine.Run
import PcieSwitch.Proofs.CounterPlacement

/-!
This module contains a command that places an event counter, on a switch that stores the setups of its counters. The
command sets up the first free counter of its stack, or fails and changes nothing.
-/

namespace PcieSwitch

open Session

/--
The switch outside stores a setup for each of its counters. The setup command overwrites what is stored for one, and a
query is answered with what is stored. Nothing else that is asked quietly changes any of it.
-/
structure Handler.KeepsCounters (outside : Handler sessionInterface σ) (bank : σ → CounterBank) : Prop where
  setup : ∀ place b s, ∃ reply s',
    outside (.device (.exchange (.counterSetup place b))) s = (.ok reply, s')
      ∧
    bank s' = Function.update (bank s) place b
  query : ∀ stack first count s, first + count ≤ maxEventCounters → ∃ s',
    outside (.device (.exchange (.counterQuery stack first count))) s
      = (.ok ((bank s).entries stack first count), s')
      ∧
    bank s' = bank s
  other : ∀ c s, c.Quiet → (∀ x, c ≠ .device (.exchange x)) → bank (outside c s).2 = bank s

theorem Entry.eq_of_exchanged? {entry : Entry sessionInterface} {x : Exchange} {answer : Except Error Bytes}
    (h : entry.exchanged? = some (x, answer)) : entry = ⟨.device (.exchange x), answer⟩ := by
  obtain ⟨c, given⟩ := entry
  cases c with
  | device c =>
    cases c with
    | exchange y =>
      cases h
      rfl
    | _ => cases h
  | _ => cases h

def Handler.Exchanges (outside : Handler sessionInterface σ) (s : σ) (sent : List Sent) (s' : σ) : Prop :=
  ∃ t, outside.Follows s t s' ∧ Quiet t ∧ t.filterMap Entry.exchanged? = sent

namespace Handler.KeepsCounters

variable {outside : Handler sessionInterface σ} {bank : σ → CounterBank} {s s' : σ}

theorem bank_of_nothing_sent (h : outside.KeepsCounters bank) (hnothing : outside.Exchanges s [] s')
    : bank s' = bank s := by
  obtain ⟨t, hfollows, hquiet, hsent⟩ := hnothing
  rw [List.filterMap_eq_nil_iff] at hsent
  induction hfollows with
  | nil => rfl
  | cons c _ ih =>
    obtain ⟨hcall, hrest⟩ := List.forall_mem_cons.mp hquiet
    obtain ⟨hnone, hrestNone⟩ := List.forall_mem_cons.mp hsent
    rw [ih hrest hrestNone]
    apply h.other c _ hcall
    rintro x rfl
    cases hnone

theorem exists_sent (h : outside.KeepsCounters bank) {x : Exchange} {answer : Except Error Bytes} {sent : List Sent}
    (hsent : outside.Exchanges s ((x, answer) :: sent) s')
    : ∃ before after,
        bank before = bank s
          ∧
        outside (.device (.exchange x)) before = (answer, after)
          ∧
        outside.Exchanges after sent s' := by
  obtain ⟨t, hfollows, hquiet, hsent⟩ := hsent
  obtain ⟨first, entry, rest, rfl, hfirst, hentry, hrest⟩ := List.filterMap_eq_cons_iff.mp hsent
  cases Entry.eq_of_exchanged? hentry
  obtain ⟨before, hbefore, hafter⟩ := Handler.follows_append.mp hfollows
  obtain ⟨hquietFirst, hquietRest⟩ := List.forall_mem_append.mp hquiet
  rw [← List.filterMap_eq_nil_iff] at hfirst
  cases hafter with
  | cons _ hafter =>
    refine ⟨before, _, ?_, rfl, rest, hafter, (List.forall_mem_cons.mp hquietRest).2, hrest⟩
    exact h.bank_of_nothing_sent ⟨first, hbefore, hquietFirst, hfirst⟩

theorem exists_queried (h : outside.KeepsCounters bank) {stack : Fin maxStacks} {answer : Except Error Bytes}
    {sent : List Sent}
    (hsent : outside.Exchanges s ((.counterQuery stack 0 maxEventCounters, answer) :: sent) s')
    : answer = .ok ((bank s).entries stack 0 maxEventCounters)
        ∧
      ∃ after, bank after = bank s ∧ outside.Exchanges after sent s' := by
  obtain ⟨before, after, hbefore, hanswer, hrest⟩ := h.exists_sent hsent
  obtain ⟨after', hstored, hafter⟩ := h.query stack 0 maxEventCounters before (Nat.le_refl _)
  rw [hstored, Prod.mk.injEq] at hanswer
  obtain ⟨rfl, rfl⟩ := hanswer
  rw [hbefore] at hafter ⊢
  exact ⟨rfl, after', hafter, hrest⟩

theorem configured_of_findsFree (h : outside.KeepsCounters bank) {stack : Fin maxStacks} {e : Failure}
    {sent : List Sent} (hsent : outside.Exchanges s sent s') (hfinds : Context.FindsFree stack sent (.error e))
    : bank s' = bank s ∧ ∀ counter, (bank s (stack, counter)).Configured := by
  cases hfinds with
  | failed =>
    -- the query does not fail on this switch
    obtain ⟨hanswer, _⟩ := h.exists_queried hsent
    cases hanswer
  | full reply _ hfree =>
    obtain ⟨hanswer, after, hafter, hrest⟩ := h.exists_queried hsent
    cases hanswer
    rw [CounterBank.freeOfReply?_entries] at hfree
    refine ⟨?_, CounterBank.configured_of_findIdx? hfree⟩
    rw [h.bank_of_nothing_sent hrest, hafter]

theorem firstFree_of_findsFree (h : outside.KeepsCounters bank) {stack : Fin maxStacks}
    {counter : Fin maxEventCounters} {found sent : List Sent} (hsent : outside.Exchanges s (found ++ sent) s')
    (hfinds : Context.FindsFree stack found (.ok counter.val))
    : (bank s).FirstFree (stack, counter) ∧ ∃ after, bank after = bank s ∧ outside.Exchanges after sent s' := by
  generalize hresult : (Except.ok counter.val : Except Failure Nat) = result at hfinds
  cases hfinds with
  | failed | full => cases hresult
  | found reply other hfree =>
    obtain ⟨hanswer, hrest⟩ := h.exists_queried hsent
    cases hanswer
    rw [CounterBank.freeOfReply?_entries] at hfree
    obtain ⟨first, hfirst, hfirstFree⟩ := CounterBank.firstFree_of_findIdx? hfree
    have hcounter : counter = first := Fin.ext ((Except.ok.inj hresult).trans hfirst.symm)
    rw [hcounter]
    exact ⟨hfirstFree, hrest⟩

theorem bank_of_counterSetup (h : outside.KeepsCounters bank) {place : CounterPlace} {b : StoredSetup}
    {answer : Except Error Bytes} (hsent : outside.Exchanges s [(.counterSetup place b, answer)] s')
    : (∃ reply, answer = .ok reply) ∧ bank s' = Function.update (bank s) place b := by
  obtain ⟨before, after, hbefore, hanswer, hrest⟩ := h.exists_sent hsent
  obtain ⟨reply, after', hset, hafter⟩ := h.setup place b before
  rw [hset, Prod.mk.injEq] at hanswer
  obtain ⟨rfl, rfl⟩ := hanswer
  refine ⟨⟨reply, rfl⟩, ?_⟩
  rw [h.bank_of_nothing_sent hrest, hafter, hbefore]

end Handler.KeepsCounters

def setupsSent (sent : List Sent) : List Exchange :=
  (sent.map Prod.fst).filter Exchange.isCounterSetup

/--
What a command that places a counter makes of the counters of a switch, from what they were before. If it succeeds, it
has set up the first free counter of its stack and no other. If it fails, it has sent no setup. Once the switch is open
it fails only for want of a free counter.
-/
structure CounterBank.Placement (a : SetupArguments) (opened : Prop) (bank bank' : CounterBank) (sent : List Sent)
    (result : Except Failure Unit) : Prop where
  accepted : result = .ok () → ∃ place,
    a.stack.toNat = place.1
      ∧
    bank.FirstFree place
      ∧
    bank' = Function.update bank place (Context.setupFor a).stored
      ∧
    (bank' place).Configured
      ∧
    (bank' place).setup = Context.setupFor a
      ∧
    setupsSent sent = [.counterSetup place (Context.setupFor a).stored]
  refused : ∀ e, result = .error e → bank' = bank ∧ setupsSent sent = []
  full : ∀ stack : Fin maxStacks, a.stack.toNat = stack → (∀ counter, (bank (stack, counter)).Configured) →
    ∃ e, result = .error e
  available : opened → (Context.setupFor a).isAmbiguous = false → ∀ place, a.stack.toNat = place.1 →
    bank.FirstFree place → result = .ok ()

theorem setupsSent_append (sent others : List Sent)
    : setupsSent (sent ++ others) = setupsSent sent ++ setupsSent others := by
  unfold setupsSent
  rw [List.map_append, List.filter_append]

theorem setupsSent_of_findsFree {stack : Fin maxStacks} {sent : List Sent} {result : Except Failure Nat}
    (h : Context.FindsFree stack sent result) : setupsSent sent = [] := by
  cases h <;> rfl

namespace CounterBank

variable {a : SetupArguments} {opened : Prop} {bank bank' : CounterBank} {sent : List Sent}

theorem placement_of_error {e : Failure} (hbank : bank' = bank) (hsent : setupsSent sent = [])
    (hnone : opened → (Context.setupFor a).isAmbiguous = false → ∀ place, a.stack.toNat = place.1 →
      ¬ bank.FirstFree place)
    : Placement a opened bank bank' sent (.error e) where
  accepted h := by cases h
  refused _ _ := ⟨hbank, hsent⟩
  full _ _ _ := ⟨e, rfl⟩
  available hopened hclear place hstack hfirst := absurd hfirst (hnone hopened hclear place hstack)

theorem placement_of_firstFree (ha : a.Unplaced) {place : CounterPlace} (hstack : a.stack.toNat = place.1)
    (hfirst : bank.FirstFree place) (hbank : bank' = Function.update bank place (Context.setupFor a).stored)
    (hsent : setupsSent sent = [.counterSetup place (Context.setupFor a).stored])
    : Placement a opened bank bank' sent (.ok ()) where
  accepted _ := by
    have hstored : bank' place = (Context.setupFor a).stored := by
      rw [hbank, Function.update_self]
    refine ⟨place, hstack, hfirst, hbank, ?_, ?_, hsent⟩
    . rw [hstored]
      exact ha.names.configured_stored
    . rw [hstored]
      exact ha.names.setup_stored
  refused _ h := by cases h
  full stack hsame hconfigured := by
    have hplace : place.1 = stack := Fin.ext (hstack.symm.trans hsame)
    rw [← hplace] at hconfigured
    exact absurd (hconfigured place.2) hfirst.free
  available _ _ _ _ _ := rfl

end CounterBank

theorem Handler.KeepsCounters.placement_of_sendsPlacing {outside : Handler sessionInterface σ}
    {bank : σ → CounterBank} (h : outside.KeepsCounters bank) {a : SetupArguments} (ha : a.Unplaced) {s s' : σ}
    {sent : List Sent} (hsent : outside.Exchanges s sent s') {result : Except Failure Unit}
    (hsends : Context.SendsPlacing a sent result) (opened : Prop)
    : CounterBank.Placement a opened (bank s) (bank s') sent result := by
  cases hsends with
  | outOfRange hstack e =>
    apply CounterBank.placement_of_error (h.bank_of_nothing_sent hsent) rfl
    intro _ _ place hplace
    rw [hplace] at hstack
    exact absurd place.1.isLt hstack
  | @unfound stack hstack _ e hfinds =>
    obtain ⟨hbank, hconfigured⟩ := h.configured_of_findsFree hsent hfinds
    apply CounterBank.placement_of_error hbank (setupsSent_of_findsFree hfinds)
    rintro _ _ ⟨other, counter⟩ hother hfirst
    have hsame : other = stack := Fin.ext (hother.symm.trans hstack)
    rw [hsame] at hfirst
    exact hfirst.free (hconfigured counter)
  | @found stack hstack found counter hfinds answer =>
    obtain ⟨hfirst, after, hafter, hrest⟩ := h.firstFree_of_findsFree hsent hfinds
    obtain ⟨⟨reply, rfl⟩, hbank⟩ := h.bank_of_counterSetup hrest
    rw [hafter] at hbank
    apply CounterBank.placement_of_firstFree ha hstack hfirst hbank
    rw [setupsSent_append, setupsSent_of_findsFree hfinds]
    rfl

namespace Invocation

def opening (i : Invocation) : Session Handle := do
  (i.context (← i.loadSettings)).openDevice

theorem setup_cases {i : Invocation} {a : SetupArguments} (haction : i.action = .setupCounter a)
    {t : List (Entry sessionInterface)} {result : Except Failure Unit} (h : i.run.run.Yields t result)
    : (∃ e, result = .error e ∧ (∀ entry ∈ t, entry.1.Plain)
        ∧ ((Context.setupFor a).isAmbiguous = true ∨ i.opening.run.Yields t (.error e))) ∨
      ∃ handle t₁ t₂, t = t₁ ++ t₂ ∧ (∀ entry ∈ t₁, entry.1.Plain) ∧ (Context.setupFor a).isAmbiguous = false
        ∧ (Context.setUp handle a).run.Yields t₂ result := by
  have hsettings := i.loadSettings_asksOnly
  rcases Program.yields_run_bind.mp h with ⟨e, hload, rfl⟩ | ⟨settings, t₁, t₂, rfl, hload, hrest⟩
  . exact .inl ⟨e, rfl, hsettings t _ hload, .inr (Program.yields_run_bind.mpr (.inl ⟨e, hload, rfl⟩))⟩
  . have hplain := hsettings t₁ _ hload
    rw [haction] at hrest
    change ((i.context settings).setupCounter a).run.Yields t₂ result at hrest
    rw [Context.setupCounter_eq] at hrest
    split at hrest
    . next hambiguous =>
      obtain ⟨rfl, rfl⟩ := Program.yields_done.mp hrest
      rw [List.append_nil]
      exact .inl ⟨_, rfl, hplain, .inl hambiguous⟩
    . next hclear =>
      have hopening := (i.context settings).openDevice_asksOnly
      have hopened : ∀ {u opened}, (i.context settings).openDevice.run.Yields u opened →
          i.opening.run.Yields (t₁ ++ u) opened := by
        intro u opened hopen
        exact Program.yields_run_bind.mpr (.inr ⟨settings, t₁, u, rfl, hload, hopen⟩)
      rcases Program.yields_run_bind.mp hrest with ⟨e, hopen, rfl⟩ | ⟨handle, t₃, t₄, rfl, hopen, hset⟩
      . have hboth := List.forall_mem_append.mpr ⟨hplain, hopening t₂ _ hopen⟩
        exact .inl ⟨e, rfl, hboth, .inr (hopened hopen)⟩
      . have hboth := List.forall_mem_append.mpr ⟨hplain, hopening t₃ _ hopen⟩
        exact .inr ⟨handle, t₁ ++ t₃, t₄, (List.append_assoc _ _ _).symm, hboth, Bool.eq_false_iff.mpr hclear, hset⟩

theorem quiet_of_setupCounter {i : Invocation} {a : SetupArguments} (haction : i.action = .setupCounter a)
    : AsksOnly SessionCall.Quiet i.run := by
  apply AsksOnly.bind (i.loadSettings_asksOnly.mono fun _ => SessionCall.Plain.quiet)
  intro settings
  rw [haction]
  exact (i.context settings).quiet_setupCounter a

theorem placement {i : Invocation} {a : SetupArguments} (haction : i.action = .setupCounter a) (ha : a.Unplaced)
    {outside : Handler sessionInterface σ} {bank : σ → CounterBank} (hkeeps : outside.KeepsCounters bank) (s : σ)
    : CounterBank.Placement a (∃ handle, i.opening.result outside s = .ok handle) (bank s)
        (bank (i.run.run.run outside s).2) (i.run.sent outside s) (i.run.result outside s) := by
  have hfollows := Handler.follows_transcript outside i.run.run s
  have hyields := Program.yields_transcript outside i.run.run s
  unfold Session.sent Session.result
  generalize i.run.run.transcript outside s = t at hfollows hyields ⊢
  generalize i.run.run.run outside s = left at hfollows hyields ⊢
  obtain ⟨result, s'⟩ := left
  have hquiet : Quiet t := quiet_of_setupCounter haction t _ hyields
  rcases setup_cases haction hyields with ⟨e, hresult, hplain, hstop⟩ |
    ⟨handle, t₁, t₂, rfl, hplain, _, hset⟩
  . have hnothing := filterMap_exchanged?_of_plain hplain
    dsimp only at hresult ⊢
    rw [hresult, hnothing]
    apply CounterBank.placement_of_error (hkeeps.bank_of_nothing_sent ⟨t, hfollows, hquiet, hnothing⟩) rfl
    -- a run that stops early was ambiguous or never opened the switch
    rintro ⟨handle, hopened⟩ hclear _ _ _
    rcases hstop with hambiguous | hfailed
    . rw [hclear] at hambiguous
      cases hambiguous
    . rw [hfollows.run_eq hfailed] at hopened
      cases hopened
  . obtain ⟨middle, hfirst, hrest⟩ := Handler.follows_append.mp hfollows
    obtain ⟨hquietFirst, hquietRest⟩ := List.forall_mem_append.mp hquiet
    have hnothing := filterMap_exchanged?_of_plain hplain
    have hbank := hkeeps.bank_of_nothing_sent ⟨t₁, hfirst, hquietFirst, hnothing⟩
    rw [Context.setUp_of_unplaced handle ha.unplaced] at hset
    have hshows : (Context.placeCounter handle a).Shows _ _ result := ⟨t₂, hset, rfl, rfl⟩
    rw [List.filterMap_append, hnothing, List.nil_append, ← hbank]
    exact hkeeps.placement_of_sendsPlacing ha ⟨t₂, hrest, hquietRest, rfl⟩ (Context.sendsPlacing_of_shows hshows) _

end Invocation
end PcieSwitch
