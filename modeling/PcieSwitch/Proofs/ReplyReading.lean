import PcieSwitch.Bandwidth
import PcieSwitch.Counter.Operations
import PcieSwitch.Latency
import PcieSwitch.Port.Binding
import PcieSwitch.Proofs.ReadSteps

/-!
This module contains the steps that replies are read by. An action that takes its steps inside of a reply reads the same
whatever follows the reply, so it never finds the zeros that stand for what is not there.
-/

namespace PcieSwitch
namespace Read

/--
From where the cursor stands, an action takes these steps in order and does nothing else with it. The steps after a bind
may depend on what was read before it.
-/
inductive TakesSteps : {α : Type} → Read α → Cursor → List ReadStep → Prop where
  | pure {α : Type} (value : α) (cursor : Cursor) : TakesSteps (Pure.pure value : Read α) cursor []
  | u8 (cursor : Cursor) : TakesSteps Read.u8 cursor [.u8]
  | u16 (cursor : Cursor) : TakesSteps Read.u16 cursor [.u16]
  | u32 (cursor : Cursor) : TakesSteps Read.u32 cursor [.u32]
  | u64 (cursor : Cursor) : TakesSteps Read.u64 cursor [.u64]
  | skip (count : Nat) (cursor : Cursor) : TakesSteps (Read.skip count) cursor [.skip count]
  | bind {α β : Type} {action : Read α} {f : α → Read β} {cursor : Cursor} {steps others : List ReadStep} :
    TakesSteps action cursor steps → TakesSteps (f (action cursor).1) (action cursor).2 others →
      TakesSteps (action >>= f) cursor (steps ++ others)

theorem Takes.apply_append {action : Read α} {width : Nat} {value : Bytes → α} (h : action.Takes width value)
    {cursor : Cursor} (hwidth : width ≤ cursor.rest.length) (more : Bytes)
    : action ⟨cursor.rest ++ more, cursor.position⟩
        =
      ((action cursor).1, ⟨(action cursor).2.rest ++ more, (action cursor).2.position⟩) := by
  have hfit : Bytes.fit (cursor.rest ++ more) width = cursor.rest.fit width := by
    rw [Bytes.fit_eq_take hwidth, Bytes.fit_eq_take (by rw [List.length_append]; omega),
      List.take_append_of_le_length hwidth]
  rw [h, h]
  dsimp only
  rw [hfit, List.drop_append_of_le_length hwidth]

namespace TakesSteps

theorem cursor_eq {action : Read α} {cursor : Cursor} {steps : List ReadStep} (h : action.TakesSteps cursor steps)
    : (action cursor).2
        =
      ⟨cursor.rest.drop (ReadStep.widthOf steps), cursor.position + ReadStep.widthOf steps⟩ := by
  induction h with
  | pure | u8 | u16 | u32 | u64 | skip => rfl
  | @bind _ _ action f cursor steps others _ _ hfirst hrest =>
    change (f (action cursor).1 (action cursor).2).2 = _
    rw [hrest, hfirst, ReadStep.widthOf_append, List.drop_drop, Nat.add_assoc]

theorem apply_append {action : Read α} {cursor : Cursor} {steps : List ReadStep} (h : action.TakesSteps cursor steps)
    (hwidth : ReadStep.widthOf steps ≤ cursor.rest.length) (more : Bytes)
    : action ⟨cursor.rest ++ more, cursor.position⟩
        =
      ((action cursor).1, ⟨(action cursor).2.rest ++ more, (action cursor).2.position⟩) := by
  induction h with
  | pure => rfl
  | u8 => exact takes_u8.apply_append hwidth more
  | u16 => exact takes_u16.apply_append hwidth more
  | u32 => exact takes_u32.apply_append hwidth more
  | u64 => exact takes_u64.apply_append hwidth more
  | skip count => exact (takes_skip count).apply_append hwidth more
  | @bind _ _ action f cursor steps others hsteps _ hfirst hrest =>
    rw [ReadStep.widthOf_append] at hwidth
    have hothers : ReadStep.widthOf others ≤ (action cursor).2.rest.length := by
      rw [hsteps.cursor_eq, List.length_drop]
      omega
    change f (action ⟨cursor.rest ++ more, cursor.position⟩).1 (action ⟨cursor.rest ++ more, cursor.position⟩).2 = _
    rw [hfirst (by omega), hrest hothers]
    rfl

end TakesSteps

/--
An action reads inside of the data: each of its steps ends there, and what it reads is the same whatever follows.
-/
structure Inside (action : Read α) (data : Bytes) (steps : List ReadStep) : Prop where
  takesSteps : action.TakesSteps (Cursor.start data) steps
  ends : ∀ i step, steps[i]? = some step → ReadStep.widthOf (steps.take i) + step.width ≤ data.length
  unpadded : ∀ more, (data ++ more).read action = data.read action

theorem TakesSteps.inside {action : Read α} {data : Bytes} {steps : List ReadStep}
    (h : action.TakesSteps (Cursor.start data) steps) (hwidth : ReadStep.widthOf steps ≤ data.length)
    : action.Inside data steps := by
  constructor
  case takesSteps => exact h
  case ends =>
    intro i step hstep
    obtain ⟨hi, rfl⟩ := List.getElem?_eq_some_iff.mp hstep
    have hsplit := ReadStep.widthOf_append (steps.take (i + 1)) (steps.drop (i + 1))
    rw [List.take_append_drop, List.take_succ_eq_append_getElem hi, ReadStep.widthOf_append] at hsplit
    simp only [ReadStep.widthOf_cons, ReadStep.widthOf_nil] at hsplit
    omega
  case unpadded =>
    intro more
    have hfirst := congrArg Prod.fst (h.apply_append hwidth more)
    exact hfirst

def HasSteps (action : Read α) (steps : List ReadStep) : Prop :=
  ∀ cursor, action.TakesSteps cursor steps

theorem hasSteps_pure (value : α) : (pure value : Read α).HasSteps [] :=
  TakesSteps.pure value

theorem HasSteps.bind {action : Read α} {f : α → Read β} {steps others : List ReadStep} (h : action.HasSteps steps)
    (hf : ∀ value, (f value).HasSteps others) : (action >>= f).HasSteps (steps ++ others) := by
  intro cursor
  exact TakesSteps.bind (h cursor) (hf _ _)

theorem HasSteps.map {action : Read α} {steps : List ReadStep} (h : action.HasSteps steps) (f : α → β)
    : (action >>= fun value => pure (f value)).HasSteps steps := by
  have hbind := h.bind fun value => hasSteps_pure (f value)
  rw [List.append_nil] at hbind
  exact hbind

theorem HasSteps.ite {action other : Read α} {steps : List ReadStep} (c : Prop) [Decidable c] (h : action.HasSteps steps)
    (hother : other.HasSteps steps) : (if c then action else other).HasSteps steps := by
  split
  . exact h
  . exact hother

theorem hasSteps_u8 : u8.HasSteps [.u8] :=
  TakesSteps.u8

theorem hasSteps_u16 : u16.HasSteps [.u16] :=
  TakesSteps.u16

theorem hasSteps_u32 : u32.HasSteps [.u32] :=
  TakesSteps.u32

theorem hasSteps_u64 : u64.HasSteps [.u64] :=
  TakesSteps.u64

theorem hasSteps_skip (count : Nat) : (skip count).HasSteps [.skip count] :=
  TakesSteps.skip count

theorem hasSteps_flag : flag.HasSteps [.u8] := by
  apply hasSteps_u8.map

def entrySteps (count : Nat) (steps : List ReadStep) : List ReadStep :=
  (List.replicate count steps).flatten

theorem HasSteps.times {item : Read α} {steps : List ReadStep} (h : item.HasSteps steps) (count : Nat)
    : (times count item).HasSteps (entrySteps count steps) := by
  induction count with
  | zero => exact hasSteps_pure []
  | succ count ih =>
    unfold Read.times entrySteps
    rw [List.replicate_succ, List.flatten_cons]
    apply h.bind
    intro first
    exact ih.map (first :: ·)

theorem widthOf_entrySteps (count : Nat) (steps : List ReadStep)
    : ReadStep.widthOf (entrySteps count steps) = count * ReadStep.widthOf steps := by
  induction count with
  | zero => exact (Nat.zero_mul _).symm
  | succ count ih =>
    unfold entrySteps at ih ⊢
    rw [List.replicate_succ, List.flatten_cons, ReadStep.widthOf_append, ih, Nat.succ_mul, Nat.add_comm]

end Read

open Read

theorem CounterSetup.hasSteps_read : CounterSetup.read.HasSteps [.u32, .u8, .u32] := by
  have h := hasSteps_u32.bind fun word => hasSteps_flag.bind fun egress =>
    hasSteps_u32.map (CounterSetup.mk word.toUInt8 (word >>> 8) egress)
  exact h

theorem hasSteps_readCounterValue : readCounterValue.HasSteps [.u32, .skip 4] := by
  have h := hasSteps_u32.bind fun value => (hasSteps_skip 4).map fun _ => value
  exact h

theorem Traffic.hasSteps_read : Traffic.read.HasSteps [.u64, .u64, .u64] := by
  have h := hasSteps_u64.bind fun posted => hasSteps_u64.bind fun completion =>
    hasSteps_u64.map (Traffic.mk posted completion)
  exact h

theorem Bandwidth.hasSteps_read : Bandwidth.read.HasSteps (List.replicate 7 .u64) := by
  have h := hasSteps_u64.bind fun time => Traffic.hasSteps_read.bind fun egress =>
    Traffic.hasSteps_read.map (Bandwidth.mk time egress)
  exact h

theorem Latency.hasSteps_read : Latency.read.HasSteps [.u16, .u16] := by
  have h := hasSteps_u16.bind fun current => hasSteps_u16.map (Latency.mk current)
  exact h

theorem PortStatus.hasSteps_read : PortStatus.read.HasSteps (List.replicate 8 .u8 ++ [.u16, .skip 2]) := by
  have h := hasSteps_u8.bind fun physical => hasSteps_u8.bind fun partition =>
    hasSteps_u8.bind fun logical => hasSteps_u8.bind fun place =>
    hasSteps_u8.bind fun configuredWidth => hasSteps_u8.bind fun negotiatedWidth =>
    hasSteps_flag.bind fun facesHost => hasSteps_u8.bind fun link =>
    hasSteps_u16.bind fun state => (hasSteps_skip 2).bind fun _ =>
    HasSteps.ite (maxStacks < (place >>> 4).toNat) (hasSteps_pure none) (hasSteps_pure (some
      (PortStatus.mk ⟨partition, place >>> 4, facesHost, place &&& 0xF, physical, logical⟩ configuredWidth
        negotiatedWidth (link >>> 7 != 0) (link &&& 0x7F) ⟨state⟩)))
  exact h

theorem BindInfo.hasSteps_read : BindInfo.read.HasSteps (List.replicate 4 .u8) := by
  have h := hasSteps_u8.bind fun physical => hasSteps_u8.bind fun partition => hasSteps_u8.bind fun logical =>
    hasSteps_u8.map fun state => BindInfo.mk physical partition logical (.ofCode state)
  exact h

theorem Bytes.read_u8 (bs : Bytes) : bs.read u8 = bs.getD 0 0 := by
  cases bs with
  | nil => rfl
  | cons b rest =>
    change UInt8.ofNat (b.toNat + 256 * 0) = b
    rw [Nat.mul_zero, Nat.add_zero, UInt8.ofNat_toNat]

theorem BindInfo.takesSteps_readReply (reply : Bytes)
    : BindInfo.readReply.TakesSteps (Cursor.start reply)
        (.u8 :: .skip 3 :: entrySteps (min (reply.getD 0 0).toNat maxPhysicalPorts) (List.replicate 4 .u8)) := by
  have hentries : ∀ count : UInt8,
      (skip 3 >>= fun _ => times (min count.toNat maxPhysicalPorts) BindInfo.read).HasSteps
        ([.skip 3] ++ entrySteps (min count.toNat maxPhysicalPorts) (List.replicate 4 .u8)) := by
    intro count
    apply (hasSteps_skip 3).bind
    intro _
    apply BindInfo.hasSteps_read.times
  rw [← Bytes.read_u8]
  -- how many entries follow is known once the first byte is read
  exact TakesSteps.bind (TakesSteps.u8 _) (hentries _ _)

end PcieSwitch
