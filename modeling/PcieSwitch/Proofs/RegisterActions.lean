import PcieSwitch.Proofs.QuietActions
import PcieSwitch.Proofs.RegisterWindows

/-!
This module contains what the actions on registers ask: the registers are reached in one of two ways, reading them is
quiet, and to write one is a single destructive call.
-/

namespace PcieSwitch

namespace Session

open Operation Request

structure QuietlyRead (w : Context.Registers) : Prop where
  read : ∀ offset width, Program.AsksOnly SessionCall.Quiet (w.read offset width).run
  readBytes : ∀ offset length, Program.AsksOnly SessionCall.Quiet (w.readBytes offset length).run

theorem quietlyRead_onDevice (h : Handle) : QuietlyRead (h.window.map onDevice) where
  read offset width := by
    have hread := h.sendsOnly_readWindow (List.mem_singleton_self _) offset width.bytes
    exact quiet_onDevice (hread.map _) (by decide) (by decide)
  readBytes offset length := by
    have hread := h.sendsOnly_readWindow (List.mem_singleton_self _) offset length
    exact quiet_onDevice hread (by decide) (by decide)

theorem quietlyRead_onMemory (m : Mapping) : QuietlyRead (m.window.map onMemory) where
  read offset width := by
    apply AsksOnly.onMemory
    refine Program.AsksOnly.check_bind ?_
    intro _
    refine Program.AsksOnly.run_bind ((Program.AsksOnly.call ⟨rfl, rfl⟩).map _) ?_
    intro _ _ _
    apply Program.AsksOnly.pure
  readBytes offset length := by
    apply AsksOnly.onMemory
    refine Program.AsksOnly.check_bind ?_
    intro _
    exact (Program.AsksOnly.call ⟨rfl, rfl⟩).map _

namespace QuietlyRead

variable {w : Context.Registers} (h : QuietlyRead w)
include h

theorem readRegister (address bytes : Nat) : AsksOnly SessionCall.Quiet (ofDevice (w.readRegister address bytes)) := by
  apply AsksOnly.ofDevice
  refine Program.AsksOnly.check_bind ?_
  intro place
  refine Program.AsksOnly.run_bind (h.read place.2 place.1) ?_
  intro _ _ _
  apply Program.AsksOnly.pure

theorem readSpan (address length : Nat) : AsksOnly SessionCall.Quiet (ofDevice (w.readSpan address length)) := by
  apply AsksOnly.ofDevice
  refine Program.AsksOnly.check_bind ?_
  intro _
  exact h.readBytes address length

theorem dumpRaw (blocks : List (Nat × Nat)) : AsksOnly SessionCall.Quiet (Context.dumpRaw w blocks) := by
  induction blocks with
  | nil => apply AsksOnly.pure
  | cons block rest ih =>
    apply (h.readSpan block.1 block.2).bind
    intro data
    exact (AsksOnly.ask ⟨rfl, rfl⟩).bind fun _ => ih

theorem dumpText (d : Hexdump) (blocks : List (Nat × Nat))
    : AsksOnly SessionCall.Quiet (Context.dumpText w d blocks) := by
  induction blocks generalizing d with
  | nil => exact AsksOnly.ask ⟨rfl, rfl⟩
  | cons block rest ih =>
    apply (h.readSpan block.1 block.2).bind
    intro data
    exact (AsksOnly.ask ⟨rfl, rfl⟩).bind fun _ => ih _

theorem registerLine (address bytes : Nat) (style : PrintStyle)
    : AsksOnly SessionCall.Quiet (Context.registerLine w address bytes style) := by
  cases style with
  | hex | dec => exact (h.readRegister address bytes).bind fun _ => AsksOnly.pure _
  | text => exact (h.readSpan address bytes).bind fun _ => AsksOnly.pure _

theorem printRegisters (address bytes : Nat) (style : PrintStyle) (count : Nat)
    : AsksOnly SessionCall.Quiet (Context.printRegisters w address bytes style count) := by
  induction count generalizing address with
  | zero => apply AsksOnly.pure
  | succ count ih =>
    apply (h.registerLine address bytes style).bind
    intro line
    exact (AsksOnly.ask ⟨rfl, rfl⟩).bind fun _ => ih _

end QuietlyRead
end Session

namespace Context

open Session

inductive Reached (c : Context) (writable : Bool) (t : List (Entry sessionInterface)) : Registers → Prop where
  | tunnelled (h : Handle) (htunnelled : c.tunnelled = true) : Reached c writable t (h.window.map onDevice)
  | mapped {path : String} {size : Nat} (hmapped : c.tunnelled = false)
    (hopened : ⟨.openRegisters path writable, .ok size⟩ ∈ t)
    : Reached c writable t ((Mapping.window ⟨size, writable⟩).map onMemory)

theorem Reached.quietlyRead {c : Context} {writable : Bool} {t : List (Entry sessionInterface)} {w : Registers}
    (h : c.Reached writable t w) : QuietlyRead w := by
  cases h with
  | tunnelled h => exact quietlyRead_onDevice h
  | mapped => exact quietlyRead_onMemory _

theorem registers_asks {P : SessionCall → Prop} (c : Context) (writable : Bool) (hopen : ∀ name, P (.openDevice name))
    (hlog : ∀ level line, P (.log level line)) (hfile : ∀ path, P (.openRegisters path writable))
    : AsksOnly P (c.registers writable) := by
  apply (c.openDevice_asks hopen hlog).bind
  intro h
  split
  . apply AsksOnly.pure
  . refine AsksOnly.bind (AsksOnly.within _ (AsksOnly.ofDevice ?_)) fun _ => AsksOnly.pure _
    refine Program.AsksOnly.check_bind ?_
    intro path
    refine Program.AsksOnly.run_bind ((Program.AsksOnly.call (hfile path)).map _) ?_
    intro answer _ _
    cases answer with
    | error e => apply Program.AsksOnly.pure
    | ok size => apply Program.AsksOnly.ofExcept

theorem quiet_registers (c : Context) (writable : Bool) : AsksOnly SessionCall.Quiet (c.registers writable) :=
  c.registers_asks writable (fun _ => ⟨rfl, rfl⟩) (fun _ _ => ⟨rfl, rfl⟩) fun _ => ⟨rfl, rfl⟩

theorem opened_of_yields_mapRegisters {h : Handle} {writable : Bool} {t : List (Entry sessionInterface)} {m : Mapping}
    (hyields : (h.mapRegisters writable fun path =>
      Program.call (I := sessionInterface) (.openRegisters path writable)).run.Yields t (.ok m))
    : ∃ path size, ⟨.openRegisters path writable, .ok size⟩ ∈ t ∧ m = ⟨size, writable⟩ := by
  unfold Handle.mapRegisters at hyields
  cases hfile : h.registerFile with
  | error e =>
    rw [hfile] at hyields
    cases (Program.yields_done.mp hyields).2
  | ok path =>
    rw [hfile] at hyields
    obtain ⟨answer, rest, rfl, hrest⟩ := Program.yields_ask.mp hyields
    cases answer with
    | error e => cases (Program.yields_done.mp hrest).2
    | ok size =>
      refine ⟨path, size, List.mem_cons_self, ?_⟩
      have hfile : Mapping.ofFile size writable = .ok m := (Program.yields_ofExcept.mp hrest).2.symm
      unfold Mapping.ofFile at hfile
      split at hfile
      . cases hfile
      . exact (Except.ok.inj hfile).symm

theorem reached_of_yields {c : Context} {writable : Bool} {t : List (Entry sessionInterface)} {w : Registers}
    (h : (c.registers writable).run.Yields t (.ok w)) : c.Reached writable t w := by
  obtain ⟨handle, t₁, t₂, rfl, _, hrest⟩ := yields_bind_ok.mp h
  split at hrest
  . next htunnelled =>
    obtain ⟨_, hw⟩ := Program.yields_done.mp hrest
    cases hw
    exact Reached.tunnelled handle htunnelled
  . next hmapped =>
    obtain ⟨mapping, t₃, t₄, rfl, hmap, hw⟩ := yields_bind_ok.mp hrest
    obtain ⟨_, hw⟩ := Program.yields_done.mp hw
    cases hw
    have hanswer := yields_ofDevice_ok.mp (yields_within_ok.mp hmap)
    obtain ⟨path, size, hopened, rfl⟩ := opened_of_yields_mapRegisters hanswer
    apply Reached.mapped (Bool.eq_false_iff.mpr hmapped)
    exact List.mem_append_right _ (List.mem_append_left _ hopened)

theorem quiet_dump (c : Context) (count : Option Nat) (text : Bool)
    : AsksOnly SessionCall.Quiet (c.dump count text) := by
  refine Program.AsksOnly.run_bind (c.quiet_registers false) ?_
  intro w t hreach
  have hread := (reached_of_yields hreach).quietlyRead
  dsimp only
  split
  . apply hread.dumpText
  . apply hread.dumpRaw

theorem quiet_readRegisters (c : Context) (address bytes count : Nat) (style : PrintStyle)
    : AsksOnly SessionCall.Quiet (c.readRegisters address bytes count style) := by
  refine Program.AsksOnly.run_bind (c.quiet_registers false) ?_
  intro w t hreach
  exact (reached_of_yields hreach).quietlyRead.printRegisters address bytes style count

end Context

def DoesOnce (P : SessionCall → Prop) (t : List (Entry sessionInterface)) : Prop :=
  ∃ before entry after, t = before ++ entry :: after ∧ Quiet before ∧ P entry.1 ∧ Quiet after

theorem DoesOnce.append_quiet {P : SessionCall → Prop} {t u : List (Entry sessionInterface)} (h : DoesOnce P t)
    (hu : Quiet u) : DoesOnce P (t ++ u) := by
  obtain ⟨before, entry, after, rfl, hbefore, hentry, hafter⟩ := h
  refine ⟨before, entry, after ++ u, ?_, hbefore, hentry, hafter.append hu⟩
  rw [List.append_assoc, List.cons_append]

theorem DoesOnce.mono {P Q : SessionCall → Prop} {t : List (Entry sessionInterface)} (h : DoesOnce P t)
    (hPQ : ∀ c, P c → Q c) : DoesOnce Q t := by
  obtain ⟨before, entry, after, ht, hbefore, hentry, hafter⟩ := h
  exact ⟨before, entry, after, ht, hbefore, hPQ entry.1 hentry, hafter⟩

theorem doesOnce_of_sends {asked : List (Entry deviceInterface)} {x : Exchange} {answer : Except Error Bytes}
    (h : asked.filterMap Entry.sent? = [(x, answer)])
    : DoesOnce (· = .device (.exchange x)) (asked.map Entry.ofDevice) := by
  have hquiet : ∀ entries : List (Entry deviceInterface), (∀ entry ∈ entries, entry.sent? = none) →
      Quiet (entries.map Entry.ofDevice) := by
    intro entries hnone
    refine List.forall_mem_map.mpr ?_
    rintro ⟨c, answer⟩ hentry
    cases c with
    | exchange x => cases hnone _ hentry
    | _ => exact ⟨rfl, rfl⟩
  obtain ⟨before, entry, after, rfl, hbefore, hentry, hafter⟩ := List.filterMap_eq_cons_iff.mp h
  rw [List.filterMap_eq_nil_iff] at hafter
  refine ⟨before.map Entry.ofDevice, entry.ofDevice, after.map Entry.ofDevice, ?_, hquiet before hbefore, ?_,
    hquiet after hafter⟩
  . rw [List.map_append, List.map_cons]
  . obtain ⟨c, answer⟩ := entry
    cases c with
    | exchange x =>
      cases hentry
      rfl
    | _ => cases hentry

theorem Tunnelled.writeBytes_of_length_le (h : Handle) (offset : Nat) {data : Bytes} (hne : data ≠ [])
    (hlength : data.length ≤ maxWrite)
    : writeBytes h offset data = h.order (.writeWindow (UInt32.ofNat offset) data) := by
  unfold writeBytes placed
  rw [pages_of_length_le (by decide) hne hlength, placed.go, writeBytes.go]
  apply bind_pure_unit

theorem Mapping.write_eq_store {m : Mapping} (hwritable : m.writable = true) {width : Width} {offset : Nat}
    (hplace : Window.Located m.size width offset) (value : UInt64)
    : m.window.write offset width value = store offset (Bytes.ofNat width.bytes value.toNat) := by
  unfold window
  dsimp only
  rw [if_pos hwritable, locate_eq_ok hplace.inside hplace.aligned]
  rfl

def SessionCall.WritesRegister (tunnelled : Bool) (width : Width) (address : Nat) (value : UInt64) : SessionCall → Prop
  | .device (.exchange x) => tunnelled = true ∧ x = .writeWindow address (Bytes.ofNat width.bytes value.toNat)
  | .memory (.store offset data) =>
    tunnelled = false ∧ offset = address ∧ data = Bytes.ofNat width.bytes value.toNat
  | _ => False

theorem SessionCall.WritesRegister.isDestructive {tunnelled : Bool} {width : Width} {address : Nat} {value : UInt64}
    {c : SessionCall} (h : c.WritesRegister tunnelled width address value) : c.isDestructive = true := by
  unfold WritesRegister at h
  split at h
  . rw [h.2]
    rfl
  . rfl
  . cases h

namespace Context.Reached

open Program

variable {c : Context} {t u : List (Entry sessionInterface)} {w : Registers} {width : Width} {offset : Nat}
  {value : UInt64}

theorem doesOnce_write {result : Except Error Unit} (h : c.Reached true t w)
    (hplace : Window.Located w.size width offset) (hyields : (w.write offset width value).run.Yields u result)
    : DoesOnce (SessionCall.WritesRegister c.tunnelled width offset value) u := by
  cases h with
  | tunnelled h htunnelled =>
    obtain ⟨asked, rfl, hasked⟩ := yields_onDevice.mp hyields
    -- a register is small enough for one command
    have hbytes : (Bytes.ofNat width.bytes value.toNat).length = width.bytes := Bytes.length_ofNat _ _
    have hlength : (Bytes.ofNat width.bytes value.toNat).length ≤ Tunnelled.maxWrite := by
      rw [hbytes]
      cases width <;> decide
    have hne : Bytes.ofNat width.bytes value.toNat ≠ [] := by
      apply List.ne_nil_of_length_pos
      rw [hbytes]
      exact width.bytes_pos
    have hfits := Request.fits_writeWindow h.generation offset (Tunnelled.add_le_of_le_maxWrite hlength)
    have horder : (h.order (.writeWindow (UInt32.ofNat offset) (Bytes.ofNat width.bytes value.toNat))).run.Yields asked
        result := by
      rw [← Tunnelled.writeBytes_of_length_le h offset hne hlength]
      exact hasked
    obtain ⟨answer, hsent, _⟩ := (Handle.sends_order hfits).mp ⟨asked, horder, rfl⟩
    rw [Request.exchange_writeWindow] at hsent
    apply (doesOnce_of_sends hsent).mono
    rintro _ rfl
    exact ⟨htunnelled, rfl⟩
  | @mapped path size hmapped hopened =>
    obtain ⟨asked, rfl, hasked⟩ := yields_onMemory.mp hyields
    have hstore := Mapping.write_eq_store (m := ⟨size, true⟩) rfl hplace value
    rw [hstore] at hasked
    obtain ⟨answer, rest, rfl, hrest⟩ := yields_ask.mp hasked
    obtain ⟨rfl, _⟩ := yields_done.mp hrest
    exact ⟨[], _, [], rfl, List.forall_mem_nil _, ⟨hmapped, rfl, rfl⟩, List.forall_mem_nil _⟩

theorem doesOnce_writeRegister {address bytes : Nat} {place : Width × Nat} {result : Except Error Nat}
    (h : c.Reached true t w) (hvalid : Window.validate w.size address bytes value = .ok place)
    (hyields : (w.writeRegister address bytes value).run.Yields u result)
    : DoesOnce (SessionCall.WritesRegister c.tunnelled place.1 place.2 value) u := by
  have hwrite : w.writeRegister address bytes value = (do w.write place.2 place.1 value; return place.2) := by
    unfold Window.writeRegister
    rw [hvalid]
    rfl
  have hplace := Window.located_of_validate_eq_ok hvalid
  rw [hwrite] at hyields
  rcases yields_run_bind.mp hyields with ⟨e, hfail, _⟩ | ⟨_, u₁, u₂, rfl, hdone, hlast⟩
  . exact h.doesOnce_write hplace hfail
  . rw [(yields_done.mp hlast).1, List.append_nil]
    exact h.doesOnce_write hplace hdone

end Context.Reached
end PcieSwitch
