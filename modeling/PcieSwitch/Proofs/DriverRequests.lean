import PcieSwitch.Proofs.DriverCalls
import PcieSwitch.Proofs.EventMarks
import PcieSwitch.Proofs.RequestReading
import PcieSwitch.Simulation.Switch

/-!
This module contains the requests to the driver and what they ask for. Each one is read back from the structure of its
control call. It asks for what the operation was asked for if its number fits into the word of the structure, and a
number that does not fit is cut to the word.
-/

namespace PcieSwitch

namespace EventIndex

def ofCode? (code : Int32) : Option EventIndex :=
  match code.toInt with
  | .ofNat i => some (.only i)
  | .negSucc 0 => some .localPartition
  | .negSucc 1 => some .all
  | .negSucc _ => none

def Fits : EventIndex → Prop
  | .localPartition => True
  | .all => True
  | .only i => i < 2 ^ 31

instance (index : EventIndex) : Decidable index.Fits := by
  unfold Fits
  cases index <;> infer_instance

theorem toInt_code_only (i : Nat) : (EventIndex.only i).code.toInt = (i : Int).bmod (2 ^ 32) :=
  Int32.toInt_ofNat'

theorem ofCode?_eq_only_iff {code : Int32} {i : Nat} : ofCode? code = some (.only i) ↔ code.toInt = i := by
  unfold ofCode?
  split
  . next j hcode =>
    rw [hcode, Option.some.injEq, only.injEq]
    exact Int.ofNat_inj.symm
  . next hcode => simp [hcode]
  . next hcode => simp [hcode]
  . next hcode => simp [hcode]

theorem bmod_word_eq_iff (i : Nat) : (i : Int).bmod (2 ^ 32) = i ↔ i < 2 ^ 31 := by
  rw [Int.bmod_def]
  split <;> omega

theorem ofCode?_code_iff (index : EventIndex) : ofCode? index.code = some index ↔ index.Fits := by
  cases index with
  | localPartition => decide
  | all => decide
  | only i => rw [ofCode?_eq_only_iff, toInt_code_only, bmod_word_eq_iff, Fits]

theorem fits_of_check {event : Event} {index : EventIndex} (hkind : event.kind ≠ .global)
    (h : check event index = .ok ()) : index.Fits := by
  cases index with
  | localPartition => trivial
  | all => trivial
  | only i =>
    have hcount : event.kind.count < 2 ^ 31 := by
      cases event.kind <;> decide
    have haccepted : (⟨event, .only i⟩ : Mark).Accepted := h
    rcases haccepted.number_lt rfl with hglobal | hlt
    . exact absurd hglobal hkind
    . exact Nat.lt_trans hlt hcount

/--
The codes of the local partition and of all places stand for numbers as well, for those that are cut to them.
-/
theorem code_eq_iff (index : EventIndex)
    : (index.code = -1 ↔ index = .localPartition ∨ ∃ i, index = .only i ∧ i % 2 ^ 32 = 2 ^ 32 - 1)
        ∧
      (index.code = -2 ↔ index = .all ∨ ∃ i, index = .only i ∧ i % 2 ^ 32 = 2 ^ 32 - 2) := by
  cases index with
  | localPartition => simp [code]
  | all => simp [code]
  | only i =>
    have hlocal : (-1 : Int32).toInt = -1 := by decide
    have hall : (-2 : Int32).toInt = -2 := by decide
    simp only [← Int32.toInt_inj, toInt_code_only, Int.bmod_def, hlocal, hall, reduceCtorEq, false_or, only.injEq,
      exists_eq_left']
    constructor
    . split <;> omega
    . split <;> omega

end EventIndex

namespace EventCall

def readControl : Read (Option EventCall) := do
  let number ← Read.u32
  let code ← Read.u32
  let flags ← Read.u32
  Read.skip 28
  return Event.all[number.toNat]?.bind fun event =>
    (EventIndex.ofCode? code.toInt32).map fun index => .control event index flags

def readPortOf : Read (Option EventCall) := do
  let function ← Read.u32
  Read.skip 8
  return some (.portOf function.toNat)

def readFunctionOf : Read (Option EventCall) := do
  Read.skip 4
  let partition ← Read.u32
  let port ← Read.u32
  return some (.functionOf partition port)

def ofControl? (c : Ioctl) (data : Bytes) : Option EventCall :=
  if c = .control then data.read readControl
  else if c = .portOf then data.read readPortOf
  else if c = .functionOf then data.read readFunctionOf
  else none

theorem event_of_number (event : Event) : Event.all[event.number]? = some event := by
  cases event <;> rfl

theorem reads_readControl (event : Event) (index : EventIndex) (flags : UInt32)
    : readControl.Reads (controlFields event index flags)
        ((EventIndex.ofCode? index.code).map fun named => .control event named flags) := by
  have hnumber : (UInt32.ofNat event.number).toNat = event.number := by
    cases event <;> rfl
  apply (Read.reads_u32 _).bind
  apply (Read.reads_u32 _).bind
  apply (Read.reads_u32 _).bind
  rw [hnumber, event_of_number, Int32.toInt32_toUInt32]
  exact (Read.reads_skip 28).map _

theorem ofControl?_control (event : Event) (index : EventIndex) (flags : UInt32)
    : ofControl? .control (.ofFields (controlFields event index flags))
        =
      (EventIndex.ofCode? index.code).map fun named => .control event named flags :=
  (reads_readControl event index flags).read_eq

theorem ofControl?_portOf (function : Nat)
    : ofControl? .portOf (.ofFields [.u32 (UInt32.ofNat function), .zeros 8])
        =
      some (.portOf (function % 2 ^ 32)) := by
  have hreads : readPortOf.Reads [.u32 (UInt32.ofNat function), .zeros 8] (some (.portOf (function % 2 ^ 32))) := by
    apply (Read.reads_u32 _).bind
    rw [UInt32.toNat_ofNat']
    exact (Read.reads_skip 8).map _
  exact hreads.read_eq

theorem ofControl?_functionOf (partition port : UInt32)
    : ofControl? .functionOf (.ofFields [.zeros 4, .u32 partition, .u32 port])
        =
      some (.functionOf partition port) := by
  have hreads : readFunctionOf.Reads [.zeros 4, .u32 partition, .u32 port] (some (.functionOf partition port)) := by
    apply (Read.reads_skip 4).bind
    apply (Read.reads_u32 partition).bind
    exact (Read.reads_u32 port).map _
  exact hreads.read_eq

end EventCall

namespace Operation

variable (file : Handler fileInterface φ) (others : Handler deviceInterface σ) (f : φ) (s : σ)

def AsksDriver (operation : Operation α) (c : Ioctl) (data : Bytes) : Prop :=
  (operation.driven file others f s).2 = [.control c data] ∧ data.length = c.size

variable {h : Handle}

theorem asksDriver_askEvents (hevents : h.hasEvents = true) {c : EventCall} {ioctl : Ioctl} {data : Bytes}
    {read : Bytes → c.Value} (hfile : c.overFile = do return read (← FileWork.control ioctl data))
    (hdata : data.length = ioctl.size) : (h.askEvents c).AsksDriver file others f s ioctl data := by
  refine ⟨?_, hdata⟩
  rw [driven_askEvents file others f s hevents, hfile, FileWork.calling, FileWork.attempt_control_read]
  rfl

theorem asksDriver_controlEvent (hevents : h.hasEvents = true) {event : Event} {index : EventIndex}
    (haccepted : EventIndex.check event index = .ok ()) (flags : UInt32)
    : (h.controlEvent event index flags).AsksDriver file others f s .control
        (.ofFields (EventCall.controlFields event index flags)) := by
  have hask : h.controlEvent event index flags = h.askEvents (.control event index flags) :=
    ofExcept_ok_bind haccepted
  rw [hask]
  apply asksDriver_askEvents file others f s hevents rfl
  rw [Bytes.length_ofFields]
  rfl

theorem asksDriver_portOf (hevents : h.hasEvents = true) (function : Nat)
    : (h.portOf function).AsksDriver file others f s .portOf (.ofFields [.u32 (UInt32.ofNat function), .zeros 8]) := by
  apply asksDriver_askEvents file others f s hevents rfl
  rw [Bytes.length_ofFields]
  rfl

theorem asksDriver_functionOf (hevents : h.hasEvents = true) (partition port : UInt32)
    : (h.functionOf partition port).AsksDriver file others f s .functionOf
        (.ofFields [.zeros 4, .u32 partition, .u32 port]) := by
  apply asksDriver_askEvents file others f s hevents rfl
  rw [Bytes.length_ofFields]
  rfl

/--
Each question about a single event or port function comes to one control call, or to none if the index of the event is
refused. The structure of the call asks for the same thing if the number in the question fits into the word for it.
Of a larger number only the low word is passed on: a port function becomes another one, and a global event is asked for
at another index, which may even be the local partition or all of them. The numbers of the other events always fit.
-/
theorem driver_is_asked_what_fits {h : Handle} (hevents : h.hasEvents = true) (file : Handler fileInterface φ)
    (others : Handler deviceInterface σ) (f : φ) (s : σ)
    : (∀ event index flags,
        (∀ e, EventIndex.check event index = .error e →
          (h.controlEvent event index flags).driven file others f s = (.error e, []))
          ∧
        (EventIndex.check event index = .ok () → ∃ data,
          (h.controlEvent event index flags).AsksDriver file others f s .control data
            ∧
          EventCall.ofControl? .control data
            = (EventIndex.ofCode? index.code).map (fun named => .control event named flags)
            ∧
          (EventCall.ofControl? .control data = some (.control event index flags) ↔ index.Fits)
            ∧
          (event.kind ≠ .global → index.Fits)))
        ∧
      (∀ index : EventIndex,
        (index.code = -1 ↔ index = .localPartition ∨ ∃ i, index = .only i ∧ i % 2 ^ 32 = 2 ^ 32 - 1)
          ∧
        (index.code = -2 ↔ index = .all ∨ ∃ i, index = .only i ∧ i % 2 ^ 32 = 2 ^ 32 - 2)
          ∧
        ∀ i, index = .only i → (index.code.toInt = i ↔ i < 2 ^ 31))
        ∧
      (∀ function, ∃ data,
        (h.portOf function).AsksDriver file others f s .portOf data
          ∧
        EventCall.ofControl? .portOf data = some (.portOf (function % 2 ^ 32))
          ∧
        (EventCall.ofControl? .portOf data = some (.portOf function) ↔ function < 2 ^ 32))
        ∧
      (∀ partition port, ∃ data,
        (h.functionOf partition port).AsksDriver file others f s .functionOf data
          ∧
        EventCall.ofControl? .functionOf data = some (.functionOf partition port)) := by
  refine ⟨?_, ?_, ?_, ?_⟩
  . intro event index flags
    refine ⟨?_, ?_⟩
    . intro e hrefused
      have hthrow : h.controlEvent event index flags = throw e := ofExcept_error_bind hrefused
      rw [hthrow]
      exact driven_throw file others f s e
    . intro haccepted
      refine ⟨_, asksDriver_controlEvent file others f s hevents haccepted flags,
        EventCall.ofControl?_control event index flags, ?_, ?_⟩
      . rw [EventCall.ofControl?_control, ← EventIndex.ofCode?_code_iff]
        simp
      . intro hkind
        exact EventIndex.fits_of_check hkind haccepted
  . intro index
    obtain ⟨hlocal, hall⟩ := index.code_eq_iff
    refine ⟨hlocal, hall, ?_⟩
    rintro i rfl
    rw [EventIndex.toInt_code_only]
    exact EventIndex.bmod_word_eq_iff i
  . intro function
    refine ⟨_, asksDriver_portOf file others f s hevents function, EventCall.ofControl?_portOf function, ?_⟩
    rw [EventCall.ofControl?_portOf, Option.some.injEq, EventCall.portOf.injEq]
    exact Nat.mod_eq_iff_lt (by decide)
  . intro partition port
    exact ⟨_, asksDriver_functionOf file others f s hevents partition port,
      EventCall.ofControl?_functionOf partition port⟩

open Simulation in
theorem last_function_is_asked_for
    : let switch : Switch := { events := .kernel [{ pieces := [(16, [7, 0, 0, 0])] }] }
      let h : Handle := switch.handle "switch" 0 .gen4
      h.hasEvents = true
        ∧
      (∃ data,
        (h.controlEvent .linkState (.only 254) EventFlags.clear).AsksDriver Switch.file Switch.device switch {}
          .control data
          ∧
        EventCall.ofControl? .control data = some (.control .linkState (.only 254) EventFlags.clear))
        ∧
      (h.controlEvent .linkState (.only 255) EventFlags.clear).driven Switch.file Switch.device switch {}
        = (.error (.portOutOfRange 255), []) := by
  intro switch h
  have hevents : h.hasEvents = true := rfl
  obtain ⟨hcontrol, _⟩ := driver_is_asked_what_fits hevents Switch.file Switch.device switch {}
  refine ⟨hevents, ?_, ?_⟩
  . obtain ⟨data, hasks, _, hread, hfits⟩ := (hcontrol .linkState (.only 254) EventFlags.clear).2 rfl
    exact ⟨data, hasks, hread.mpr (hfits (by decide))⟩
  . exact (hcontrol .linkState (.only 255) EventFlags.clear).1 _ rfl

open Simulation in
/--
Port function `2 ^ 32` is passed on as port function zero, and a global event at index `2 ^ 32 - 1` as one in the local
partition.
-/
theorem large_numbers_are_cut
    : let switch : Switch := { events := .kernel [] }
      (¬ ∀ (h : Handle) (function : Nat) (data : Bytes), h.hasEvents = true →
        (h.portOf function).AsksDriver Switch.file Switch.device switch {} .portOf data →
          EventCall.ofControl? .portOf data = some (.portOf function))
        ∧
      (¬ ∀ (h : Handle) (event : Event) (index : EventIndex) (flags : UInt32) (data : Bytes), h.hasEvents = true →
        EventIndex.check event index = .ok () →
          (h.controlEvent event index flags).AsksDriver Switch.file Switch.device switch {} .control data →
            EventCall.ofControl? .control data = some (.control event index flags)) := by
  intro switch
  have hevents : (switch.handle "switch" 0 .gen4).hasEvents = true := rfl
  constructor
  . intro hall
    have hread := hall _ (2 ^ 32) _ hevents (asksDriver_portOf Switch.file Switch.device switch {} hevents (2 ^ 32))
    rw [EventCall.ofControl?_portOf] at hread
    cases hread
  . intro hall
    have hread := hall _ .systemReset (.only (2 ^ 32 - 1)) 0 _ hevents rfl
      (asksDriver_controlEvent Switch.file Switch.device switch {} hevents rfl 0)
    rw [EventCall.ofControl?_control] at hread
    have hlocal : EventIndex.ofCode? (EventIndex.only (2 ^ 32 - 1)).code = some .localPartition := by decide
    rw [hlocal] at hread
    cases hread

end Operation
end PcieSwitch
