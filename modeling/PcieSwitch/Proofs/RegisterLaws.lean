import Mathlib.Algebra.BigOperators.Ring.List
import Mathlib.Algebra.Ring.Nat
import PcieSwitch.Proofs.RegisterWindows

/-!
This module contains the laws that mapped registers obey as memory. Registers are bytes at addresses; a write stores the
bytes of its value, least significant byte first, and a read tells the value of the bytes that the writes before it have
left.
-/

namespace PcieSwitch

abbrev Cells := Nat → UInt8

namespace Cells

def store (cells : Cells) (place width value : Nat) : Cells :=
  fun i => if place ≤ i ∧ i < place + width then UInt8.ofNat (value / 256 ^ (i - place)) else cells i

def value (cells : Cells) (place width : Nat) : Nat :=
  ((List.range width).map fun i => (cells (place + i)).toNat * 256 ^ i).sum

end Cells

namespace Bytes

def cells (bs : Bytes) : Cells :=
  fun i => bs.getD i 0

theorem toNat_eq_value (bs : Bytes) : bs.toNat = bs.cells.value 0 bs.length := by
  induction bs with
  | nil => rfl
  | cons b bs ih =>
    -- the bytes behind the first one count 256 times as much as they do by themselves
    have hrest : ∀ i, (bs.getD i 0).toNat * 256 ^ (i + 1) = 256 * ((bs.getD i 0).toNat * 256 ^ i) := by
      intro i
      rw [Nat.pow_succ']
      exact Nat.mul_left_comm _ _ _
    have hscale := List.sum_map_mul_left (List.range bs.length) (fun i => (bs.getD i 0).toNat * 256 ^ i) 256
    unfold Cells.value cells at ih ⊢
    simp only [Nat.zero_add] at ih ⊢
    rw [toNat, ih, ← hscale, List.length_cons, List.range_succ_eq_map, List.map_cons, List.map_map, List.sum_cons]
    simp only [Function.comp_def, Nat.succ_eq_add_one, List.getD_cons_succ, hrest]
    simp

theorem toNat_slice {bs : Bytes} {place width : Nat} (h : place + width ≤ bs.length)
    : (bs.slice place width).toNat = bs.cells.value place width := by
  rw [toNat_eq_value, length_slice h]
  unfold Cells.value
  congr 1
  apply List.map_congr_left
  intro i hi
  have hi : i < width := List.mem_range.mp hi
  unfold cells slice
  simp [hi]

theorem cells_overwrite {bs : Bytes} {place width : Nat} (h : place + width ≤ bs.length) (value : Nat)
    : (bs.overwrite place (ofNat width value)).cells = bs.cells.store place width value := by
  have hlength : (ofNat width value).length = width := length_ofNat width value
  funext i
  unfold cells Cells.store
  rw [List.getD_eq_getElem?_getD, getElem?_overwrite (by rw [hlength]; exact h), hlength, getElem?_ofNat]
  split
  . rw [if_pos (by omega)]
    rfl
  . rw [← List.getD_eq_getElem?_getD]

end Bytes

namespace Access

def leaves (size : Nat) (cells : Cells) : Access → Cells
  | .write address n value =>
    if Window.Writes size address n value then cells.store (address - address % n) n value.toNat else cells
  | _ => cells

def isWrite : Access → Bool
  | .write .. => true
  | _ => false

theorem onRegisters_write {registers : Bytes} {address n : Nat} {value : UInt64}
    (h : Window.Writes registers.length address n value)
    : onRegisters registers (.write address n value)
        =
      (.ok (.written (address - address % n)),
        registers.overwrite (address - address % n) (Bytes.ofNat n value.toNat)) := by
  obtain ⟨width, rfl, hvalidate⟩ := Window.exists_validate_eq_ok h
  unfold onRegisters effect
  dsimp only
  rw [hvalidate]
  rfl

theorem onRegisters_write_refused {registers : Bytes} {address n : Nat} {value : UInt64}
    (h : ¬ Window.Writes registers.length address n value)
    : ∃ e, onRegisters registers (.write address n value) = (.error e, registers) := by
  obtain ⟨e, hvalidate⟩ := Window.exists_validate_eq_error h
  refine ⟨e, ?_⟩
  unfold onRegisters effect
  dsimp only
  rw [hvalidate]
  rfl

theorem onRegisters_validate {registers : Bytes} {address n : Nat} {value : UInt64}
    (h : Window.Writes registers.length address n value)
    : ∃ width,
        width.bytes = n
          ∧
        onRegisters registers (.validate address n value)
          =
        (.ok (.valid width (address - address % n)), registers) := by
  obtain ⟨width, hwidth, hvalidate⟩ := Window.exists_validate_eq_ok h
  refine ⟨width, hwidth, ?_⟩
  unfold onRegisters effect
  dsimp only
  rw [hvalidate]
  rfl

theorem onRegisters_validate_refused {registers : Bytes} {address n : Nat} {value : UInt64}
    (h : ¬ Window.Writes registers.length address n value)
    : ∃ e, onRegisters registers (.validate address n value) = (.error e, registers) := by
  obtain ⟨e, hvalidate⟩ := Window.exists_validate_eq_error h
  refine ⟨e, ?_⟩
  unfold onRegisters effect
  dsimp only
  rw [hvalidate]
  rfl

theorem onRegisters_read {registers : Bytes} {address n : Nat} (hsize : Width.IsSize n)
    (hinside : address - address % n + n ≤ registers.length)
    : onRegisters registers (.read address n)
        =
      (.ok (.register (address - address % n) (UInt64.ofNat (registers.slice (address - address % n) n).toNat)),
        registers) := by
  obtain ⟨width, rfl, hlocate⟩ := Window.exists_locate_eq_ok hsize hinside
  unfold onRegisters effect
  dsimp only
  rw [hlocate]
  rfl

theorem onRegisters_read_refused {registers : Bytes} {address n : Nat}
    (h : ¬ (Width.IsSize n ∧ address - address % n + n ≤ registers.length))
    : ∃ e, onRegisters registers (.read address n) = (.error e, registers) := by
  unfold onRegisters effect
  dsimp only
  by_cases hsize : Width.IsSize n
  . have houtside : registers.length < address - address % n + n :=
      Nat.not_le.mp fun hinside => h ⟨hsize, hinside⟩
    rw [Window.locate_of_outside hsize houtside]
    exact ⟨_, rfl⟩
  . rw [Window.locate_of_not_isSize hsize]
    exact ⟨_, rfl⟩

theorem snd_onRegisters_of_not_isWrite {access : Access} (h : access.isWrite = false) (registers : Bytes)
    : (access.onRegisters registers).2 = registers := by
  unfold onRegisters
  split
  . next outcome left heffect =>
    cases access with
    | write => cases h
    | read | validate | readSpan =>
      obtain ⟨_, _, heffect⟩ := bind_eq_ok_iff.mp heffect
      cases heffect
      rfl
  . rfl

theorem cells_onRegisters (access : Access) (registers : Bytes)
    : (access.onRegisters registers).2.cells = access.leaves registers.length registers.cells := by
  cases access with
  | write address n value =>
    unfold leaves
    dsimp only
    by_cases h : Window.Writes registers.length address n value
    . rw [onRegisters_write h, if_pos h]
      exact Bytes.cells_overwrite h.2.1 value.toNat
    . obtain ⟨e, hrefused⟩ := onRegisters_write_refused h
      rw [hrefused, if_neg h]
  | read | validate | readSpan =>
    rw [snd_onRegisters_of_not_isWrite rfl]
    rfl

theorem refused_of_onRegisters {access : Access} {registers : Bytes} {e : Error}
    (h : (access.onRegisters registers).1 = .error e)
    : (access.onRegisters registers).2 = registers ∧ e.RefusesAccess := by
  unfold onRegisters at h ⊢
  cases heffect : access.effect registers with
  | ok answer =>
    rw [heffect] at h
    cases h
  | error cause =>
    rw [heffect] at h
    cases h
    exact ⟨rfl, refusesAccess_of_effect_eq_error heffect⟩

theorem length_allOnRegisters (accesses : List Access) (registers : Bytes)
    : (allOnRegisters registers accesses).2.length = registers.length := by
  induction accesses generalizing registers with
  | nil => rfl
  | cons access rest ih =>
    unfold allOnRegisters
    exact (ih _).trans (access.length_onRegisters registers)

theorem cells_allOnRegisters (accesses : List Access) (registers : Bytes)
    : (allOnRegisters registers accesses).2.cells
        =
      accesses.foldl (leaves registers.length) registers.cells := by
  induction accesses generalizing registers with
  | nil => rfl
  | cons access rest ih =>
    unfold allOnRegisters
    dsimp only
    rw [ih, length_onRegisters, cells_onRegisters, List.foldl_cons]

end Access

namespace Mapping

open Program

variable {m : Mapping} {bytes : Bytes}

theorem attempt_perform (hwritable : m.writable = true) (hsize : bytes.length = m.size) (access : Access)
    : attempt memory (m.window.perform access) bytes = access.onRegisters bytes := by
  obtain ⟨left, hperform, hleft⟩ := (window_views hwritable).attempt_perform hsize access
  rw [hperform]
  exact Prod.ext rfl hleft

theorem attempt_perform_of_not_isWrite (hsize : bytes.length = m.size) {access : Access} (h : access.isWrite = false)
    : attempt memory (m.window.perform access) bytes = access.onRegisters bytes := by
  have hperform : m.window.perform access = (Mapping.mk m.size true).window.perform access := by
    cases access with
    | write => cases h
    | read | validate | readSpan => rfl
  rw [hperform]
  exact attempt_perform (m := ⟨m.size, true⟩) rfl hsize access

theorem attempt_write_of_readOnly (hreadOnly : m.writable = false) (bytes : Bytes) (address n : Nat) (value : UInt64)
    : ∃ e,
        attempt memory (m.window.perform (.write address n value)) bytes = (.error e, bytes)
          ∧
        (e.RefusesAccess ∨ e = .unsupported "write through a read-only mapping") := by
  unfold Window.perform Window.writeRegister
  simp only [attempt_bind, attempt_ofExcept]
  cases hvalidate : Window.validate m.window.size address n value with
  | error e => exact ⟨e, rfl, .inl (Window.refusesAccess_of_validate_eq_error hvalidate)⟩
  | ok place =>
    refine ⟨_, ?_, .inr rfl⟩
    unfold window
    dsimp only
    rw [if_neg (by rw [hreadOnly]; decide)]
    rfl

theorem refused_of_perform (hsize : bytes.length = m.size) {access : Access} {e : Error}
    (h : (attempt memory (m.window.perform access) bytes).1 = .error e)
    : (attempt memory (m.window.perform access) bytes).2 = bytes
        ∧
      (e.RefusesAccess ∨ e = .unsupported "write through a read-only mapping") := by
  by_cases hplain : m.writable = true ∨ access.isWrite = false
  . have hperform : attempt memory (m.window.perform access) bytes = access.onRegisters bytes := by
      rcases hplain with hwritable | hread
      . exact attempt_perform hwritable hsize access
      . exact attempt_perform_of_not_isWrite hsize hread
    rw [hperform] at h ⊢
    obtain ⟨hleft, hrefused⟩ := access.refused_of_onRegisters h
    exact ⟨hleft, .inl hrefused⟩
  . obtain ⟨hreadOnly, hwrite⟩ := not_or.mp hplain
    cases access with
    | write address n value =>
      obtain ⟨cause, hfail, hcause⟩ :=
        attempt_write_of_readOnly (Bool.eq_false_iff.mpr hreadOnly) bytes address n value
      rw [hfail] at h ⊢
      cases h
      exact ⟨rfl, hcause⟩
    | read | validate | readSpan => exact absurd rfl hwrite

theorem snd_attempt_perform_of_readOnly (hreadOnly : m.writable = false) (hsize : bytes.length = m.size)
    (access : Access) : (attempt memory (m.window.perform access) bytes).2 = bytes := by
  cases access with
  | write address n value =>
    obtain ⟨e, hfail, _⟩ := attempt_write_of_readOnly hreadOnly bytes address n value
    rw [hfail]
  | read | validate | readSpan =>
    rw [attempt_perform_of_not_isWrite hsize rfl]
    exact Access.snd_onRegisters_of_not_isWrite rfl bytes

theorem attempt_read_of_performAll (hwritable : m.writable = true) (hsize : bytes.length = m.size)
    (accesses : List Access) (address n : Nat)
    : let place := address - address % n
      let after := ((m.window.performAll accesses).run memory bytes).2
      if Width.IsSize n ∧ place + n ≤ m.size then
        ∃ word,
          attempt memory (m.window.perform (.read address n)) after = (.ok (.register place word), after)
            ∧
          word.toNat = (accesses.foldl (Access.leaves m.size) bytes.cells).value place n
      else
        ∃ e, attempt memory (m.window.perform (.read address n)) after = (.error e, after) := by
  intro place after
  have hafter : after = (Access.allOnRegisters bytes accesses).2 :=
    ((window_views hwritable).run_performAll hsize accesses).2
  have hlength : after.length = m.size := by rw [hafter, Access.length_allOnRegisters, hsize]
  rw [attempt_perform hwritable hlength, ← hlength]
  split
  . next h =>
    obtain ⟨hwidth, hinside⟩ := h
    refine ⟨_, Access.onRegisters_read hwidth hinside, ?_⟩
    rw [hlength, ← hsize, ← Access.cells_allOnRegisters, ← hafter, ← Bytes.toNat_slice hinside]
    exact Bytes.toNat_word_slice hinside hwidth.le
  . next h => exact Access.onRegisters_read_refused h

end Mapping

open Program

/--
Registers that are mapped obey the laws of memory. A write is done exactly if it would be found valid. It stores the
bytes of its value, least significant byte first, at the multiple of its width that its address is rounded down to, and
nothing else is stored. Whatever is accessed after it, in whichever widths, a read tells the value of the bytes that the
writes up to then have left. An access that fails stores nothing, and none fails for its alignment.
-/
theorem mapped_registers_obey_memory_laws (m : Mapping) {bytes : Bytes} (hsize : bytes.length = m.size)
    (address n : Nat) (value : UInt64)
    : let perform (access : Access) (bytes : Bytes) := attempt memory (m.window.perform access) bytes
      let place := address - address % n
      let allowed := Width.IsSize n ∧ place + n ≤ m.size ∧ value.toNat < 2 ^ (8 * n)
      let validated := perform (.validate address n value) bytes
      let written := perform (.write address n value) bytes
      (if allowed then
        ∃ width, width.bytes = n ∧ validated.1 = .ok (.valid width place)
      else
        ∃ e, validated.1 = .error e)
        ∧
      (m.writable = true →
        if allowed then
          written.1 = .ok (.written place)
            ∧
          written.2 = bytes.overwrite place (Bytes.ofNat n value.toNat)
            ∧
          written.2.cells = bytes.cells.store place n value.toNat
            ∧
          ∀ later address' n',
            let place' := address' - address' % n'
            let cells := later.foldl (Access.leaves m.size) (bytes.cells.store place n value.toNat)
            let after := ((m.window.performAll later).run memory written.2).2
            if Width.IsSize n' ∧ place' + n' ≤ m.size then
              ∃ word,
                perform (.read address' n') after = (.ok (.register place' word), after)
                  ∧
                word.toNat = cells.value place' n'
            else
              ∃ e, perform (.read address' n') after = (.error e, after)
        else
          ∃ e, written.1 = .error e)
        ∧
      (m.writable = false → (∃ e, written.1 = .error e) ∧ ∀ access, (perform access bytes).2 = bytes)
        ∧
      ∀ access e, (perform access bytes).1 = .error e →
        (perform access bytes).2 = bytes ∧ ∀ place alignment, e ≠ .misaligned place alignment := by
  intro perform place allowed validated written
  have hallowed : allowed ↔ Window.Writes bytes.length address n value := by rw [hsize]; rfl
  refine ⟨?_, ?_, ?_, ?_⟩
  . have hvalidated : validated = (Access.validate address n value).onRegisters bytes :=
      Mapping.attempt_perform_of_not_isWrite hsize rfl
    split
    . next h =>
      obtain ⟨width, hwidth, hvalid⟩ := Access.onRegisters_validate (hallowed.mp h)
      exact ⟨width, hwidth, by rw [hvalidated, hvalid]⟩
    . next h =>
      obtain ⟨e, hrefused⟩ := Access.onRegisters_validate_refused (mt hallowed.mpr h)
      exact ⟨e, by rw [hvalidated, hrefused]⟩
  . intro hwritable
    have hwritten : written = (Access.write address n value).onRegisters bytes :=
      Mapping.attempt_perform hwritable hsize _
    split
    . next h =>
      rw [hwritten, Access.onRegisters_write (hallowed.mp h)]
      have hcells := Bytes.cells_overwrite (hsize ▸ h.2.1) value.toNat
      refine ⟨rfl, rfl, hcells, ?_⟩
      intro later address' n'
      rw [← hcells]
      have hlength : (bytes.overwrite place (Bytes.ofNat n value.toNat)).length = m.size := by
        rw [Bytes.length_overwrite, hsize]
      exact Mapping.attempt_read_of_performAll hwritable hlength later address' n'
    . next h =>
      obtain ⟨e, hrefused⟩ := Access.onRegisters_write_refused (mt hallowed.mpr h)
      exact ⟨e, by rw [hwritten, hrefused]⟩
  . intro hreadOnly
    obtain ⟨e, hfail, _⟩ := Mapping.attempt_write_of_readOnly hreadOnly bytes address n value
    exact ⟨⟨e, congrArg Prod.fst hfail⟩, Mapping.snd_attempt_perform_of_readOnly hreadOnly hsize⟩
  . intro access e h
    obtain ⟨hleft, hcause⟩ := Mapping.refused_of_perform hsize h
    refine ⟨hleft, ?_⟩
    rintro place alignment rfl
    rcases hcause with hrefused | hunsupported
    . exact hrefused
    . cases hunsupported

/--
Four bytes are written across an address that they are not aligned to, then two of them again. Eight bytes that are read
there are those before, the first two that were written at first, and the two that were written last.
-/
theorem overlapping_writes_are_read_back
    : let m : Mapping := ⟨14, true⟩
      let bytes : Bytes := [1, 2, 3, 4, 5, 6, 7, 8, 9, 10, 11, 12, 13, 14]
      let write := m.window.perform (.write 5 4 0xa1b2c3d4)
      let left : Bytes := [1, 2, 3, 4, 0xd4, 0xc3, 0xb2, 0xa1, 9, 10, 11, 12, 13, 14]
      let after := ((m.window.performAll [.write 7 2 0x5566, .write 13 4 0]).run memory left).2
      bytes.length = m.size
        ∧
      attempt memory write bytes = (.ok (.written 4), left)
        ∧
      ∃ word,
        attempt memory (m.window.perform (.read 3 8)) after = (.ok (.register 0 word), after)
          ∧
        word.toNat = 0x5566c3d404030201 := by
  intro m bytes write left after
  have hlaws := mapped_registers_obey_memory_laws m (show bytes.length = m.size from rfl) 5 4 0xa1b2c3d4
  have hwrite := hlaws.2.1 rfl
  rw [if_pos (by decide)] at hwrite
  obtain ⟨houtcome, hleft, _, hread⟩ := hwrite
  have hread := hread [.write 7 2 0x5566, .write 13 4 0] 3 8
  rw [if_pos (by decide), hleft] at hread
  obtain ⟨word, hword, hvalue⟩ := hread
  refine ⟨rfl, Prod.ext houtcome hleft, word, hword, ?_⟩
  rw [hvalue]
  decide +kernel

end PcieSwitch
