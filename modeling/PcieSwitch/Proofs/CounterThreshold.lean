import PcieSwitch.Proofs.GivenValues
import PcieSwitch.Proofs.KeptCounters

/-!
This module contains the refusal of thresholds. A counter with a threshold is refused if it would count several kinds at
several ports. One that counts one kind at several ports, or several kinds at one port, is set up.
-/

namespace PcieSwitch

open Session

namespace CounterSetup

theorem bitCount_pos {word : Nat} (hne : word ≠ 0) (hlt : word < 2 ^ 32) : 0 < bitCount word := by
  obtain ⟨i, hi⟩ := Nat.exists_testBit_of_ne_zero hne
  have hsmall : i < 32 := by
    rw [← Nat.not_le]
    intro hle
    have hclear := Nat.testBit_lt_two_pow (Nat.lt_of_lt_of_le hlt (Nat.pow_le_pow_right (by decide) hle))
    rw [hclear] at hi
    cases hi
  unfold bitCount
  apply List.length_pos_of_mem (a := i)
  rw [List.mem_filter]
  exact ⟨List.mem_range.mpr hsmall, hi⟩

def portCount (s : CounterSetup) : Nat :=
  bitCount s.portMask.toNat

def kindCount (s : CounterSetup) : Nat :=
  bitCount s.typeMask.toNat

theorem isAmbiguous_iff {s : CounterSetup}
    : s.isAmbiguous = true ↔ s.threshold ≠ 0 ∧ 1 < s.portCount ∧ 1 < s.kindCount := by
  unfold isAmbiguous portCount kindCount
  rw [Bool.and_eq_true, Bool.and_eq_true, bne_iff_ne, decide_eq_true_iff, decide_eq_true_iff, and_assoc]

end CounterSetup

theorem Context.portCount_setupFor_pos (a : SetupArguments) : 0 < (setupFor a).portCount := by
  apply CounterSetup.bitCount_pos
  . intro hzero
    exact portMask_setupFor_ne_zero a (UInt8.toNat_inj.mp hzero)
  . exact Nat.lt_trans (UInt8.toNat_lt _) (by decide)

namespace SetupArguments.Named

variable {a : SetupArguments}

theorem kindCount_setupFor_pos (h : a.Named) : 0 < (Context.setupFor a).kindCount := by
  apply CounterSetup.bitCount_pos
  . intro hzero
    exact h.typeMask_setupFor_ne_zero (UInt32.toNat_inj.mp hzero)
  . exact UInt32.toNat_lt _

theorem single_of_not_ambiguous (h : a.Named) (hclear : (Context.setupFor a).isAmbiguous = false)
    (hthreshold : (Context.setupFor a).threshold ≠ 0)
    : (Context.setupFor a).portCount = 1 ∨ (Context.setupFor a).kindCount = 1 := by
  have hports := Context.portCount_setupFor_pos a
  have hkinds := h.kindCount_setupFor_pos
  by_contra hseveral
  have hambiguous : (Context.setupFor a).isAmbiguous = true :=
    CounterSetup.isAmbiguous_iff.mpr ⟨hthreshold, by omega, by omega⟩
  rw [hclear] at hambiguous
  cases hambiguous

end SetupArguments.Named

namespace Context

theorem raises_openDevice (c : Context) : Raises (· ≠ .thresholdAmbiguous) c.openDevice := by
  unfold openDevice
  split
  . apply Raises.throw
    simp
  . refine Raises.bind (Raises.within (by simp)) fun h => Raises.bind (Raises.ask _) fun _ => Raises.pure h

theorem raises_sendSetup (h : Handle) (a : SetupArguments) (counter : Nat)
    : Raises (· ≠ .thresholdAmbiguous) (sendSetup h a counter) :=
  Raises.bind (Raises.ask _) fun _ => Raises.within (by simp)

theorem raises_freeCounter (h : Handle) (stack : UInt8)
    : Raises (· ≠ .thresholdAmbiguous) (freeCounter h stack) := by
  unfold freeCounter
  refine Raises.bind (Raises.within (by simp)) ?_
  intro setups
  split
  . apply Raises.pure
  . apply Raises.throw
    simp

theorem raises_setUp (h : Handle) (a : SetupArguments) : Raises (· ≠ .thresholdAmbiguous) (setUp h a) := by
  unfold setUp
  split
  . apply raises_sendSetup
  . exact Raises.bind (raises_freeCounter h a.stack) (raises_sendSetup h a)

theorem setups_of_sendsSetup {a : SetupArguments} {sent : List Sent} {result : Except Failure Unit}
    (h : SendsSetup a sent result) : ∀ x ∈ setupsSent sent, ∃ place, x = .counterSetup place (setupFor a).stored := by
  cases h with
  | outOfRange => apply List.forall_mem_nil
  | named _ _ answer => exact List.forall_mem_singleton.mpr ⟨_, rfl⟩
  | placed _ hplacing =>
    cases hplacing with
    | outOfRange => apply List.forall_mem_nil
    | unfound _ hfinds =>
      rw [setupsSent_of_findsFree hfinds]
      apply List.forall_mem_nil
    | found _ hfinds answer =>
      rw [setupsSent_append, setupsSent_of_findsFree hfinds]
      exact List.forall_mem_singleton.mpr ⟨_, rfl⟩

end Context

namespace Invocation

variable {i : Invocation} {a : SetupArguments} {t : List (Entry sessionInterface)} {result : Except Failure Unit}

theorem run_of_setupCounter (haction : i.action = .setupCounter a)
    : i.run = i.loadSettings >>= fun settings => (i.context settings).setupCounter a := by
  unfold run
  rw [haction]
  rfl

theorem refusal_cases (haction : i.action = .setupCounter a) (hambiguous : (Context.setupFor a).isAmbiguous = true)
    (h : i.run.run.Yields t result)
    : (∃ e, i.loadSettings.run.Yields t (.error e) ∧ result = .error e ∧ e ≠ .thresholdAmbiguous) ∨
      ∃ settings, i.loadSettings.run.Yields t (.ok settings) ∧ result = .error .thresholdAmbiguous := by
  rw [run_of_setupCounter haction] at h
  rcases Program.yields_run_bind.mp h with ⟨e, hload, rfl⟩ | ⟨settings, t₁, t₂, rfl, hload, hrest⟩
  . obtain ⟨cause, rfl⟩ := i.loadSettings_raises t e hload
    exact .inl ⟨_, hload, rfl, by simp⟩
  . rw [Context.setupCounter_eq, if_pos hambiguous] at hrest
    obtain ⟨rfl, rfl⟩ := Program.yields_done.mp hrest
    rw [List.append_nil]
    exact .inr ⟨settings, hload, rfl⟩

theorem raises_run (haction : i.action = .setupCounter a) (hclear : (Context.setupFor a).isAmbiguous = false)
    : Raises (· ≠ .thresholdAmbiguous) i.run := by
  rw [run_of_setupCounter haction]
  refine Raises.bind ?_ ?_
  . intro t e hload
    obtain ⟨cause, rfl⟩ := i.loadSettings_raises t e hload
    simp
  . intro settings
    rw [Context.setupCounter_eq, if_neg (Bool.eq_false_iff.mp hclear)]
    exact Raises.bind (Context.raises_openDevice _) (Context.raises_setUp · a)

theorem readsSettings_of_ambiguous (haction : i.action = .setupCounter a)
    (hambiguous : (Context.setupFor a).isAmbiguous = true) (h : i.run.run.Yields t result)
    : ∀ entry ∈ t, entry.1.ReadsSettings := by
  rcases refusal_cases haction hambiguous h with ⟨_, hload, _⟩ | ⟨_, hload, _⟩
  . exact i.loadSettings_asks _ _ hload
  . exact i.loadSettings_asks _ _ hload

theorem sendsSetup_cases (haction : i.action = .setupCounter a) (h : i.run.run.Yields t result)
    : (t.filterMap Entry.exchanged? = []
        ∧ ((Context.setupFor a).isAmbiguous = true ∨ ∃ e, i.opening.run.Yields t (.error e))) ∨
      ((Context.setupFor a).isAmbiguous = false
        ∧ Context.SendsSetup a (t.filterMap Entry.exchanged?) result) := by
  rcases setup_cases haction h with ⟨e, _, hplain, hstop⟩ | ⟨handle, t₁, t₂, rfl, hplain, hclear, hset⟩
  . exact .inl ⟨filterMap_exchanged?_of_plain hplain, hstop.imp_right fun hopening => ⟨e, hopening⟩⟩
  . rw [List.filterMap_append, filterMap_exchanged?_of_plain hplain]
    exact .inr ⟨hclear, Context.sendsSetup_of_shows ⟨t₂, hset, rfl, rfl⟩⟩

variable (outside : Handler sessionInterface σ) (s : σ)

theorem result_of_yields {session : Session α} {value : Except Failure α}
    (h : session.run.Yields (i.run.run.transcript outside s) value) : session.result outside s = value :=
  (Program.run_of_yields_transcript h).2

theorem refused_iff (haction : i.action = .setupCounter a)
    : i.run.result outside s = .error .thresholdAmbiguous
        ↔
      (∃ settings, i.loadSettings.result outside s = .ok settings) ∧ (Context.setupFor a).isAmbiguous = true := by
  have hyields : i.run.run.Yields (i.run.run.transcript outside s) (i.run.result outside s) :=
    Program.yields_transcript outside _ s
  constructor
  . intro hresult
    cases hambiguous : (Context.setupFor a).isAmbiguous with
    | false =>
      rw [hresult] at hyields
      exact absurd rfl (raises_run haction hambiguous _ _ hyields)
    | true =>
      refine ⟨?_, rfl⟩
      rcases refusal_cases haction hambiguous hyields with ⟨e, _, he, hne⟩ | ⟨settings, hload, _⟩
      . exact absurd (Except.error.inj (he.symm.trans hresult)) hne
      . exact ⟨settings, result_of_yields outside s hload⟩
  . rintro ⟨⟨settings, hsettings⟩, hambiguous⟩
    rcases refusal_cases haction hambiguous hyields with ⟨e, hload, _⟩ | ⟨_, _, hresult⟩
    . rw [result_of_yields outside s hload] at hsettings
      cases hsettings
    . exact hresult

theorem sendsSetup_of_opening (haction : i.action = .setupCounter a)
    (hclear : (Context.setupFor a).isAmbiguous = false) {handle : Handle}
    (hopens : i.opening.result outside s = .ok handle)
    : Context.SendsSetup a (i.run.sent outside s) (i.run.result outside s) := by
  rcases sendsSetup_cases haction (Program.yields_transcript outside i.run.run s) with
    ⟨_, hambiguous | ⟨e, hfailed⟩⟩ | ⟨_, hsends⟩
  . rw [hclear] at hambiguous
    cases hambiguous
  . rw [result_of_yields outside s hfailed] at hopens
    cases hopens
  . exact hsends

theorem setup_of_sent (haction : i.action = .setupCounter a)
    : ∀ x ∈ setupsSent (i.run.sent outside s),
        (Context.setupFor a).isAmbiguous = false ∧ ∃ place, x = .counterSetup place (Context.setupFor a).stored := by
  rcases sendsSetup_cases haction (Program.yields_transcript outside i.run.run s) with ⟨hnothing, _⟩ | ⟨hclear, hsends⟩
  . unfold Session.sent
    rw [hnothing]
    apply List.forall_mem_nil
  . intro x hx
    exact ⟨hclear, Context.setups_of_sendsSetup hsends x hx⟩

end Invocation

/--
A counter with a threshold is refused if and only if it would count several kinds at several ports, and before that
nothing but the settings is read. So what is sent with a threshold counts at a single port or counts a single kind, and
on a switch that opens all that counts at a single port or counts a single kind is sent.
-/
theorem threshold_is_refused_iff {args : List String} {i : Invocation} {a : SetupArguments}
    (hargs : Invocation.ofArguments args = .ok i) (haction : i.action = .setupCounter a)
    (outside : Handler sessionInterface σ) (s : σ)
    : let setup := Context.setupFor a
      let result := i.run.result outside s
      (result = .error .thresholdAmbiguous ↔
        (∃ settings, i.loadSettings.result outside s = .ok settings)
          ∧ setup.threshold ≠ 0 ∧ 1 < setup.portCount ∧ 1 < setup.kindCount)
        ∧
      (setup.threshold ≠ 0 → 1 < setup.portCount → 1 < setup.kindCount →
        ∀ entry ∈ i.run.run.transcript outside s, entry.1.ReadsSettings)
        ∧
      Failure.thresholdAmbiguous.chain
        = ["A threshold can only be used with a counter that has a single port and single event"]
        ∧
      (∀ x ∈ setupsSent (i.run.sent outside s), ∃ place b,
        x = .counterSetup place b
          ∧
        b.setup = setup
          ∧
        (b.setup.threshold ≠ 0 → b.setup.portCount = 1 ∨ b.setup.kindCount = 1))
        ∧
      ∀ handle, i.opening.result outside s = .ok handle → setup.portCount = 1 ∨ setup.kindCount = 1 →
        Context.SendsSetup a (i.run.sent outside s) result := by
  intro setup result
  have hnamed := Invocation.named_of_ofArguments hargs haction
  refine ⟨?_, ?_, rfl, ?_, ?_⟩
  . rw [← CounterSetup.isAmbiguous_iff]
    exact Invocation.refused_iff outside s haction
  . intro hthreshold hports hkinds
    have hambiguous := CounterSetup.isAmbiguous_iff.mpr ⟨hthreshold, hports, hkinds⟩
    exact Invocation.readsSettings_of_ambiguous haction hambiguous (Program.yields_transcript outside _ s)
  . intro x hx
    obtain ⟨hclear, place, rfl⟩ := Invocation.setup_of_sent outside s haction x hx
    refine ⟨place, _, rfl, hnamed.setup_stored, ?_⟩
    rw [hnamed.setup_stored]
    exact hnamed.single_of_not_ambiguous hclear
  . intro handle hopens hsingle
    have hclear : setup.isAmbiguous = false := by
      rw [← Bool.not_eq_true, CounterSetup.isAmbiguous_iff]
      rintro ⟨_, hports, hkinds⟩
      rcases hsingle with hone | hone
      . exact absurd hone (Nat.ne_of_gt hports)
      . exact absurd hone (Nat.ne_of_gt hkinds)
    exact Invocation.sendsSetup_of_opening outside s haction hclear hopens

/--
Two kinds at all ports are refused, and the same two at one port are set up.
-/
theorem two_kinds_are_set_up_at_one_port
    : let refused := ["--device", "switchtec0", "evcntr-setup", "-s", "1", "-e", "BAD_TLP,POSTED_TLP", "-t", "10"]
      let a : SetupArguments := {
        stack := 1, kinds := [0x002000, 0x100000], counter := none, egress := false, portMask := none, threshold := 10
      }
      let b : SetupArguments := { a with portMask := some 4 }
      let i : Invocation := {
        device := some "switchtec0", config := none, level := .warning, json := false, tunnelled := false
        action := .setupCounter a
      }
      let j : Invocation := { i with action := .setupCounter b }
      let bank : CounterBank := fun _ => CounterSetup.cleared.stored
      (Invocation.ofArguments refused = .ok i ∧ Invocation.ofArguments (refused ++ ["-p", "0x4"]) = .ok j)
        ∧
      i.run.result CounterBank.board bank = .error .thresholdAmbiguous
        ∧
      (∀ entry ∈ i.run.run.transcript CounterBank.board bank, entry.1.ReadsSettings)
        ∧
      j.run.result CounterBank.board bank = .ok ()
        ∧
      Context.SendsSetup b (j.run.sent CounterBank.board bank) (.ok ())
        ∧
      setupsSent (j.run.sent CounterBank.board bank)
        = [.counterSetup (⟨1, by decide⟩, ⟨0, by decide⟩) (Context.setupFor b).stored] := by
  intro refused a b i j bank
  have hrefused : Invocation.ofArguments refused = .ok i :=
    eq_ok_of_toOption (by decide +kernel)
  have haccepted : Invocation.ofArguments (refused ++ ["-p", "0x4"]) = .ok j :=
    eq_ok_of_toOption (by decide +kernel)
  obtain ⟨hrefusal, hsettings, _⟩ := threshold_is_refused_iff hrefused rfl CounterBank.board bank
  obtain ⟨_, _, _, _, hsends⟩ := threshold_is_refused_iff haccepted rfl CounterBank.board bank
  have hok : j.run.result CounterBank.board bank = .ok () := by
    decide +kernel
  have hsent := hsends { name := "switchtec0", partition := 0, generation := .gen4 } (by decide +kernel) (.inl (by decide +kernel))
  rw [hok] at hsent
  refine ⟨⟨hrefused, haccepted⟩, ?_, ?_, hok, hsent, ?_⟩
  . exact hrefusal.mpr ⟨⟨_, rfl⟩, by decide +kernel⟩
  . exact hsettings (by decide +kernel) (by decide +kernel) (by decide +kernel)
  . decide +kernel

/--
One kind at all ports is set up with a threshold, whatever the refusal says.
-/
theorem threshold_at_all_ports_is_sent
    : ¬ ∀ (args : List String) (i : Invocation) (a : SetupArguments) (bank : CounterBank),
        Invocation.ofArguments args = .ok i → i.action = .setupCounter a →
          ∀ place b, .counterSetup place b ∈ setupsSent (i.run.sent CounterBank.board bank) →
            b.setup.threshold ≠ 0 → b.setup.portCount = 1 ∧ b.setup.kindCount = 1 := by
  intro h
  let arguments := ["--device", "switchtec0", "evcntr-setup", "-s", "1", "-e", "BAD_TLP", "-t", "10", "-c", "0"]
  let a : SetupArguments := {
    stack := 1, kinds := [0x002000], counter := some 0, egress := false, portMask := none, threshold := 10
  }
  let i : Invocation := {
    device := some "switchtec0", config := none, level := .warning, json := false, tunnelled := false
    action := .setupCounter a
  }
  let bank : CounterBank := fun _ => CounterSetup.cleared.stored
  have hread : Invocation.ofArguments arguments = .ok i :=
    eq_ok_of_toOption (by decide +kernel)
  have hsent : setupsSent (i.run.sent CounterBank.board bank)
      = [.counterSetup (⟨1, by decide⟩, ⟨0, by decide⟩) (Context.setupFor a).stored] := by
    decide +kernel
  have hsingle := h arguments i a bank hread rfl (⟨1, by decide⟩, ⟨0, by decide⟩) (Context.setupFor a).stored
  rw [hsent] at hsingle
  obtain ⟨hports, _⟩ := hsingle List.mem_cons_self (by decide +kernel)
  have hports : (Context.setupFor a).stored.setup.portCount = 8 := by
    decide +kernel
  omega

end PcieSwitch
