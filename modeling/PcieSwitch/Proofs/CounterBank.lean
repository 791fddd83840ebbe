import Mathlib.Data.Fintype.Prod
import Mathlib.Data.Finset.Card
import PcieSwitch.CommandLine.Action.Counters
import PcieSwitch.Proofs.KindMasks
import PcieSwitch.Proofs.Layout
import PcieSwitch.Proofs.RequestReading

/-!
This module contains the event counters of a switch with the setups that are stored for them, nine bytes each. A setup
that arguments ask for is read back from these bytes as it is, and it always counts something.
-/

namespace PcieSwitch

theorem Read.reads_of_takes {action : Read α} {width : Nat} {value : Bytes → α} (h : action.Takes width value)
    {data : Bytes} (hdata : data.length = width) : action.Reads [.bytes data] (value data) := by
  intro rest position
  have hfields : Bytes.ofFields [.bytes data] = data := by simp
  rw [hfields, h]
  dsimp only
  rw [Bytes.fit_eq_take (by simp [hdata]), ← hdata, List.take_left, List.drop_left]

namespace CounterSetup

theorem length_ofFields (s : CounterSetup) : (Bytes.ofFields s.fields).length = wireSize := by
  simp [fields, Field.width, wireSize]

theorem takes_read : read.Takes wireSize fun data => data.read read := by
  have h := Read.takes_bind Read.takes_u32 fun word =>
    Read.takes_bind (Read.takes_map Read.takes_u8 (· != 0)) fun egress =>
      Read.takes_map Read.takes_u32 (CounterSetup.mk word.toUInt8 (word >>> 8) egress)
  apply Read.takes_read_of_takes h

end CounterSetup

structure StoredSetup where
  data : Bytes
  length_data : data.length = CounterSetup.wireSize

namespace StoredSetup

def setup (b : StoredSetup) : CounterSetup :=
  b.data.read CounterSetup.read

def Configured (b : StoredSetup) : Prop :=
  b.setup.portMask ≠ 0 ∧ b.setup.typeMask ≠ 0

instance : DecidablePred Configured :=
  fun b => inferInstanceAs (Decidable (b.setup.portMask ≠ 0 ∧ b.setup.typeMask ≠ 0))

theorem isConfigured_setup {b : StoredSetup} : b.setup.isConfigured = true ↔ b.Configured := by
  unfold CounterSetup.isConfigured Configured
  rw [Bool.and_eq_true, bne_iff_ne, bne_iff_ne]

theorem reads_setup (b : StoredSetup) : CounterSetup.read.Reads [.bytes b.data] b.setup :=
  Read.reads_of_takes CounterSetup.takes_read b.length_data

end StoredSetup

def CounterSetup.stored (s : CounterSetup) : StoredSetup :=
  ⟨.ofFields s.fields, s.length_ofFields⟩

theorem CounterSetup.setup_stored {s : CounterSetup} (h : s.Narrow) : s.stored.setup = s :=
  (reads_read h).read_eq

abbrev CounterPlace := Fin maxStacks × Fin maxEventCounters

abbrev CounterBank := CounterPlace → StoredSetup

namespace CounterBank

def entries (bank : CounterBank) (stack : Fin maxStacks) (first count : Nat) : Bytes :=
  (((List.finRange maxEventCounters).drop first).take count).flatMap fun counter => (bank (stack, counter)).data

def setups (bank : CounterBank) (stack : Fin maxStacks) : List CounterSetup :=
  (List.finRange maxEventCounters).map fun counter => (bank (stack, counter)).setup

def setupsFrom (bank : CounterBank) (stack : Fin maxStacks) (first count : Nat) : List CounterSetup :=
  (((List.finRange maxEventCounters).drop first).take count).map fun counter => (bank (stack, counter)).setup

theorem setupsFrom_zero (bank : CounterBank) (stack : Fin maxStacks)
    : bank.setupsFrom stack 0 maxEventCounters = bank.setups stack := by
  unfold setupsFrom setups
  rw [List.drop_zero, List.take_of_length_le (by simp)]

theorem length_entries (bank : CounterBank) (stack : Fin maxStacks) {first count : Nat}
    (h : first + count ≤ maxEventCounters)
    : (bank.entries stack first count).length = count * CounterSetup.wireSize := by
  have hcount : count ≤ maxEventCounters - first := by omega
  unfold entries
  rw [List.length_flatMap]
  simp [StoredSetup.length_data, hcount]

theorem ofReply_entries (bank : CounterBank) (stack : Fin maxStacks) {first count : Nat}
    (h : first + count ≤ maxEventCounters)
    : CounterSetup.ofReply count (bank.entries stack first count) = bank.setupsFrom stack first count := by
  have hcount : count ≤ maxEventCounters - first := by omega
  have hreads := Read.reads_times (fun counter => (bank (stack, counter)).reads_setup)
    (((List.finRange maxEventCounters).drop first).take count)
  have hread := hreads.read_eq
  rw [List.length_take_of_le (by simpa using hcount), Bytes.ofFields_flatMap] at hread
  unfold entries setupsFrom CounterSetup.ofReply
  rw [List.flatMap_def]
  simpa using hread

structure FirstFree (bank : CounterBank) (place : CounterPlace) : Prop where
  free : ¬ (bank place).Configured
  lowest : ∀ counter < place.2, (bank (place.1, counter)).Configured

theorem firstFree_of_findIdx? {bank : CounterBank} {stack : Fin maxStacks} {i : Nat}
    (h : (bank.setups stack).findIdx? (!·.isConfigured) = some i)
    : ∃ counter : Fin maxEventCounters, counter.val = i ∧ bank.FirstFree (stack, counter) := by
  obtain ⟨hi, hfree, hlowest⟩ := List.findIdx?_eq_some_iff_getElem.mp h
  have hlength : (bank.setups stack).length = maxEventCounters := by simp [setups]
  have hsetup : ∀ (counter : Fin maxEventCounters) (hcounter : counter.val < (bank.setups stack).length),
      (bank.setups stack)[counter.val] = (bank (stack, counter)).setup := by
    intro counter _
    simp [setups]
  refine ⟨⟨i, by omega⟩, rfl, ?_, ?_⟩
  . rw [hsetup ⟨i, by omega⟩ hi, Bool.not_eq_true', ← Bool.not_eq_true] at hfree
    rw [← StoredSetup.isConfigured_setup]
    exact hfree
  . intro counter hcounter
    have hbelow := hlowest counter.val hcounter
    rw [hsetup counter (Nat.lt_trans hcounter hi), Bool.not_eq_true', Bool.not_eq_false] at hbelow
    exact StoredSetup.isConfigured_setup.mp hbelow

theorem configured_of_findIdx? {bank : CounterBank} {stack : Fin maxStacks}
    (h : (bank.setups stack).findIdx? (!·.isConfigured) = none)
    : ∀ counter, (bank (stack, counter)).Configured := by
  intro counter
  have hfree := List.findIdx?_eq_none_iff.mp h (bank (stack, counter)).setup (List.mem_map_of_mem (List.mem_finRange _))
  rw [Bool.not_eq_false'] at hfree
  exact StoredSetup.isConfigured_setup.mp hfree

def configuredCount (bank : CounterBank) : Nat :=
  (Finset.univ.filter fun place => (bank place).Configured).card

theorem configuredCount_update {bank : CounterBank} {place : CounterPlace} {b : StoredSetup}
    (hfree : ¬ (bank place).Configured) (hb : b.Configured)
    : configuredCount (Function.update bank place b) = bank.configuredCount + 1 := by
  have hinsert : (Finset.univ.filter fun other => (Function.update bank place b other).Configured)
      = insert place (Finset.univ.filter fun other => (bank other).Configured) := by
    ext other
    by_cases hother : other = place
    . simp [hother, hb]
    . simp [hother]
  unfold configuredCount
  rw [hinsert, Finset.card_insert_of_notMem]
  simp [hfree]

end CounterBank

theorem Value.mask_of_parseKind {name : String} {mask : UInt32} (h : parseKind name = .ok mask)
    : mask ≠ 0 ∧ mask.toNat < 2 ^ 24 := by
  unfold parseKind at h
  split at h
  . next k hk =>
    cases h
    exact CountedKind.mask_of_mem_table k (List.mem_of_find?_eq_some hk)
  . cases h

theorem foldl_or_lt {bits : Nat} {masks : List UInt32} {start : UInt32} (hstart : start.toNat < 2 ^ bits)
    (hmasks : ∀ mask ∈ masks, mask.toNat < 2 ^ bits) : (masks.foldl (· ||| ·) start).toNat < 2 ^ bits := by
  induction masks generalizing start with
  | nil => exact hstart
  | cons mask masks ih =>
    obtain ⟨hmask, hrest⟩ := List.forall_mem_cons.mp hmasks
    apply ih _ hrest
    rw [UInt32.toNat_or]
    exact Nat.or_lt_two_pow hstart hmask

theorem foldl_or_eq_zero_iff {masks : List UInt32} {start : UInt32}
    : masks.foldl (· ||| ·) start = 0 ↔ start = 0 ∧ ∀ mask ∈ masks, mask = 0 := by
  induction masks generalizing start with
  | nil => simp
  | cons mask masks ih => rw [List.foldl_cons, ih, UInt32.or_eq_zero_iff, List.forall_mem_cons, and_assoc]

structure SetupArguments.Named (a : SetupArguments) : Prop where
  kinds_ne_nil : a.kinds ≠ []
  named : ∀ kind ∈ a.kinds, ∃ name, Value.parseKind name = .ok kind

theorem Context.portMask_setupFor_ne_zero (a : SetupArguments) : (setupFor a).portMask ≠ 0 := by
  unfold setupFor
  dsimp only
  split
  . decide
  . split
    . decide
    . assumption

namespace SetupArguments.Named

variable {a : SetupArguments} (h : a.Named)
include h

theorem typeMask_setupFor_ne_zero : (Context.setupFor a).typeMask ≠ 0 := by
  unfold Context.setupFor
  rw [ne_eq, foldl_or_eq_zero_iff, not_and]
  intro _ hzero
  obtain ⟨kind, hkind⟩ := List.exists_mem_of_ne_nil _ h.kinds_ne_nil
  obtain ⟨name, hname⟩ := h.named kind hkind
  exact (Value.mask_of_parseKind hname).1 (hzero kind hkind)

theorem narrow_setupFor : (Context.setupFor a).Narrow := by
  unfold CounterSetup.Narrow Context.setupFor
  apply foldl_or_lt (by decide)
  intro kind hkind
  obtain ⟨name, hname⟩ := h.named kind hkind
  exact (Value.mask_of_parseKind hname).2

theorem setup_stored : (Context.setupFor a).stored.setup = Context.setupFor a :=
  CounterSetup.setup_stored h.narrow_setupFor

theorem configured_stored : (Context.setupFor a).stored.Configured := by
  unfold StoredSetup.Configured
  rw [h.setup_stored]
  exact ⟨Context.portMask_setupFor_ne_zero a, h.typeMask_setupFor_ne_zero⟩

end SetupArguments.Named

structure SetupArguments.Unplaced (a : SetupArguments) : Prop where
  unplaced : a.counter = none
  kinds_ne_nil : a.kinds ≠ []
  named : ∀ kind ∈ a.kinds, ∃ name, Value.parseKind name = .ok kind

theorem SetupArguments.Unplaced.names {a : SetupArguments} (h : a.Unplaced) : a.Named :=
  ⟨h.kinds_ne_nil, h.named⟩

end PcieSwitch
