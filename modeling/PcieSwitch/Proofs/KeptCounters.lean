import PcieSwitch.Proofs.StoredCounters

/-!
This module contains runs of commands that place event counters, on a switch that stores the setups of its counters. A
counter that counts something keeps its setup, whatever counters are placed after it.
-/

namespace PcieSwitch

namespace Invocation

def runAll (outside : Handler sessionInterface σ) : List Invocation → σ → List (Except Failure Unit) × σ
  | [], s => ([], s)
  | i :: rest, s =>
    let (result, s) := i.run.run.run outside s
    let (results, s) := runAll outside rest s
    (result :: results, s)

theorem runAll_append (outside : Handler sessionInterface σ) (before after : List Invocation) (s : σ)
    : (runAll outside (before ++ after) s).2 = (runAll outside after (runAll outside before s).2).2 := by
  induction before generalizing s with
  | nil => rfl
  | cons i before ih => exact ih _

def PlacesCounter (i : Invocation) : Prop :=
  ∃ a : SetupArguments, i.action = .setupCounter a ∧ a.Unplaced

end Invocation

namespace CounterBank.Placement

variable {a : SetupArguments} {opened : Prop} {bank bank' : CounterBank} {sent : List Sent}
  {result : Except Failure Unit}

theorem keeps_configured (h : Placement a opened bank bank' sent result) {place : CounterPlace}
    (hplace : (bank place).Configured) : bank' place = bank place := by
  cases hresult : result with
  | error e => rw [(h.refused e hresult).1]
  | ok _ =>
    obtain ⟨written, _, hfirst, rfl, _⟩ := h.accepted hresult
    apply Function.update_of_ne
    rintro rfl
    exact hfirst.free hplace

theorem configuredCount_eq (h : Placement a opened bank bank' sent result)
    : bank'.configuredCount = bank.configuredCount + [result].countP Except.isOk := by
  cases hresult : result with
  | error e =>
    rw [(h.refused e hresult).1]
    rfl
  | ok _ =>
    obtain ⟨written, _, hfirst, hbank, hconfigured, _⟩ := h.accepted hresult
    rw [hbank, Function.update_self] at hconfigured
    rw [hbank, configuredCount_update hfirst.free hconfigured]
    rfl

end CounterBank.Placement

namespace Invocation

variable {outside : Handler sessionInterface σ} {bank : σ → CounterBank} {invocations : List Invocation}

theorem runAll_keeps_configured (hkeeps : outside.KeepsCounters bank) (hplaces : ∀ i ∈ invocations, i.PlacesCounter)
    {s : σ} {place : CounterPlace} (hplace : (bank s place).Configured)
    : bank (runAll outside invocations s).2 place = bank s place := by
  induction invocations generalizing s with
  | nil => rfl
  | cons i rest ih =>
    -- the first command leaves the counter as it is, so it still counts for the rest
    obtain ⟨⟨a, haction, ha⟩, hrest⟩ := List.forall_mem_cons.mp hplaces
    have hkept := (placement haction ha hkeeps s).keeps_configured hplace
    rw [← hkept] at hplace ⊢
    exact ih hrest hplace

theorem configuredCount_runAll (hkeeps : outside.KeepsCounters bank) (hplaces : ∀ i ∈ invocations, i.PlacesCounter)
    (s : σ)
    : (bank (runAll outside invocations s).2).configuredCount
        =
      (bank s).configuredCount + (runAll outside invocations s).1.countP Except.isOk := by
  induction invocations generalizing s with
  | nil => rfl
  | cons i rest ih =>
    obtain ⟨⟨a, haction, ha⟩, hrest⟩ := List.forall_mem_cons.mp hplaces
    have hcount := (placement haction ha hkeeps s).configuredCount_eq
    have hcounts := ih hrest (i.run.run.run outside s).2
    rw [hcount, Nat.add_assoc, ← List.countP_append] at hcounts
    exact hcounts

end Invocation

/--
On a switch that stores the setups of its counters, each command of a run sets up the first free counter of its stack
and no other, or fails and sends no setup. So a counter that counts something keeps its setup through the rest of the
run, and each command that succeeds makes one more of them.
-/
theorem placed_counters_keep_their_setups {outside : Handler sessionInterface σ} {bank : σ → CounterBank}
    (hkeeps : outside.KeepsCounters bank) {invocations : List Invocation}
    (hplaces : ∀ i ∈ invocations, i.PlacesCounter) (s : σ)
    : (∀ before i after a, invocations = before ++ i :: after → i.action = .setupCounter a →
        let start := (Invocation.runAll outside before s).2
        CounterBank.Placement a (∃ handle, i.opening.result outside start = .ok handle) (bank start)
          (bank (i.run.run.run outside start).2) (i.run.sent outside start) (i.run.result outside start))
        ∧
      (∀ before after, invocations = before ++ after → ∀ place,
        (bank (Invocation.runAll outside before s).2 place).Configured →
          bank (Invocation.runAll outside invocations s).2 place = bank (Invocation.runAll outside before s).2 place)
        ∧
      (bank (Invocation.runAll outside invocations s).2).configuredCount
        = (bank s).configuredCount + (Invocation.runAll outside invocations s).1.countP Except.isOk := by
  refine ⟨?_, ?_, Invocation.configuredCount_runAll hkeeps hplaces s⟩
  . rintro before i after a rfl haction
    obtain ⟨a', haction', ha⟩ := hplaces i (List.mem_append_right _ List.mem_cons_self)
    rw [haction, Action.setupCounter.injEq] at haction'
    subst haction'
    exact Invocation.placement haction ha hkeeps _
  . rintro before after rfl place hplace
    rw [Invocation.runAll_append]
    apply Invocation.runAll_keeps_configured hkeeps _ hplace
    intro i hi
    exact hplaces i (List.mem_append_right before hi)

namespace CounterBank

def answer (x : Exchange) : StateM CounterBank (Except Error Bytes) := fun bank =>
  let refused := (.error (.firmware ⟨0x64005⟩), bank)
  match x.payload with
  | 2 :: stack :: counter :: _ :: data =>
    if h : stack.toNat < maxStacks ∧ counter.toNat < maxEventCounters then
      let place : CounterPlace := (⟨stack.toNat, h.1⟩, ⟨counter.toNat, h.2⟩)
      (.ok [], Function.update bank place ⟨Bytes.fit data CounterSetup.wireSize, Bytes.length_fit _ _⟩)
    else refused
  | [3, stack, first, count, _] =>
    if h : stack.toNat < maxStacks then (.ok (bank.entries ⟨stack.toNat, h⟩ first.toNat count.toNat), bank)
    else refused
  | _ => refused

def board : Handler sessionInterface CounterBank
  | .openDevice name, bank => (.ok { name, partition := 0, generation := .gen4 }, bank)
  | .listDevices, bank => (.ok [], bank)
  | .device (.exchange x), bank => answer x bank
  | .device (.event _), bank => (.error (.unsupported "switch events"), bank)
  | .device .now, bank => (0, bank)
  | .device (.log _), bank => ((), bank)
  | .openRegisters .., bank => (.error .notFound, bank)
  | .memory (.load ..), bank => ([], bank)
  | .memory (.store ..), bank => ((), bank)
  | .contents _, bank => (.error .notFound, bank)
  | .isThere _, bank => (false, bank)
  | .variable _, bank => (none, bank)
  | .print _, bank => ((), bank)
  | .report _, bank => ((), bank)
  | .question _, bank => ([], bank)
  | .sleep _, bank => ((), bank)
  | .calendar, bank => (0, bank)
  | .log .., bank => ((), bank)

theorem keepsCounters_board : board.KeepsCounters id where
  setup place b bank := by
    have hstack := UInt8.toNat_ofNat_of_lt' (Nat.lt_trans place.1.isLt (by decide))
    have hcounter := UInt8.toNat_ofNat_of_lt' (Nat.lt_trans place.2.isLt (by decide))
    have hdata : Bytes.fit (b.data ++ Bytes.zeros ((Request.setupSlots - 1) * CounterSetup.wireSize))
        CounterSetup.wireSize = b.data := by
      rw [Bytes.fit_eq_take (by simp [b.length_data]), ← b.length_data, List.take_left]
    refine ⟨[], Function.update bank place b, ?_, rfl⟩
    unfold board answer Exchange.counterSetup
    simp [hstack, hcounter, hdata]
  query stack first count bank hcount := by
    have hsize : maxEventCounters < UInt8.size := by decide
    have hstack := UInt8.toNat_ofNat_of_lt' (Nat.lt_trans stack.isLt (by decide))
    have hfirst : (UInt8.ofNat first).toNat = first := UInt8.toNat_ofNat_of_lt' (by omega)
    have hcount : (UInt8.ofNat count).toNat = count := UInt8.toNat_ofNat_of_lt' (by omega)
    refine ⟨bank, ?_, rfl⟩
    unfold board answer Exchange.counterQuery
    simp [hstack, hfirst, hcount]
  other c bank _ hother := by
    cases c with
    | device c =>
      cases c with
      | exchange x => exact absurd rfl (hother x)
      | _ => rfl
    | memory c => cases c <;> rfl
    | _ => rfl

end CounterBank

/--
The first counter of a stack counts something, so two commands take the second and the third. On a switch all of whose
counters count something they fail.
-/
theorem two_commands_take_two_counters
    : let arguments : SetupArguments := {
        stack := 3, kinds := [0x000001, 0x100000], counter := none, egress := false, portMask := none, threshold := 0
      }
      let i : Invocation := {
        device := some "switch", config := none, level := .warning, json := false, tunnelled := false
        action := .setupCounter arguments
      }
      let used : StoredSetup := (CounterSetup.mk 1 1 true 0).stored
      let first : CounterPlace := (⟨3, by decide⟩, ⟨0, by decide⟩)
      let bank : CounterBank := Function.update (fun _ => CounterSetup.cleared.stored) first used
      let run := Invocation.runAll CounterBank.board [i, i] bank
      CounterBank.board.KeepsCounters id
        ∧
      (∀ j ∈ [i, i], j.PlacesCounter)
        ∧
      run.1.map Except.isOk = [true, true]
        ∧
      run.2 first = used
        ∧
      run.2.configuredCount = bank.configuredCount + 2
        ∧
      [run.2 (⟨3, by decide⟩, ⟨1, by decide⟩), run.2 (⟨3, by decide⟩, ⟨2, by decide⟩)].map StoredSetup.setup
        = [Context.setupFor arguments, Context.setupFor arguments]
        ∧
      (Invocation.runAll CounterBank.board [i, i] fun _ => used).1.map Except.isOk = [false, false] := by
  intro arguments i used first bank run
  have hkinds : ∀ kind ∈ arguments.kinds, ∃ name, Value.parseKind name = .ok kind := by
    have hunsupported : Value.parseKind "unsup_req_err" = .ok 0x000001 := by
      decide +kernel
    have hposted : Value.parseKind "POSTED_TLP" = .ok 0x100000 := by
      decide +kernel
    exact List.forall_mem_cons.mpr ⟨⟨_, hunsupported⟩, List.forall_mem_singleton.mpr ⟨_, hposted⟩⟩
  have hplace : i.PlacesCounter := ⟨arguments, rfl, rfl, List.cons_ne_nil _ _, hkinds⟩
  have hplaces : ∀ j ∈ [i, i], j.PlacesCounter :=
    List.forall_mem_cons.mpr ⟨hplace, List.forall_mem_singleton.mpr hplace⟩
  have hrun : run = Invocation.runAll CounterBank.board [i, i] bank := rfl
  obtain ⟨_, hkept, hcount⟩ := placed_counters_keep_their_setups CounterBank.keepsCounters_board hplaces bank
  rw [← hrun] at hkept hcount
  have hused : bank first = used := Function.update_self _ _ _
  have hconfigured : (bank first).Configured := by
    rw [hused]
    decide +kernel
  have hresults : run.1.map Except.isOk = [true, true] := by
    decide +kernel
  have htwo : run.1.countP Except.isOk = 2 := by
    decide +kernel
  refine ⟨CounterBank.keepsCounters_board, hplaces, hresults, ?_, ?_, ?_, ?_⟩
  . rw [← hused]
    exact hkept [] [i, i] rfl first hconfigured
  . rw [← htwo]
    exact hcount
  . decide +kernel
  . decide +kernel

end PcieSwitch
