import Mathlib.Algebra.Group.Nat.Defs
import PcieSwitch.Latency
import PcieSwitch.Register.Window

/-!
This module contains what the checks of arguments accept and what they refuse with.
-/

namespace PcieSwitch

theorem bind_eq_ok_iff {check : Except ε α} {f : α → Except ε β} {value : β}
    : (check >>= f) = .ok value ↔ ∃ middle, check = .ok middle ∧ f middle = .ok value := by
  cases check with
  | ok middle => simp [bind, Except.bind]
  | error e => simp [bind, Except.bind]

theorem bind_eq_error_iff {check : Except ε α} {f : α → Except ε β} {e : ε}
    : (check >>= f) = .error e ↔ check = .error e ∨ ∃ middle, check = .ok middle ∧ f middle = .error e
    := by
  cases check with
  | ok middle => simp [bind, Except.bind]
  | error e' => simp [bind, Except.bind]

theorem checkPort_eq_ok_iff {port : UInt8} : checkPort port = .ok () ↔ port.toNat < maxPorts := by
  unfold checkPort
  split
  . simp [*]
  . simp [*]

theorem checkPorts_eq_ok_iff {ports : List UInt8}
    : checkPorts ports = .ok () ↔ ∀ port ∈ ports, port.toNat < maxPorts := by
  induction ports with
  | nil => simp [checkPorts]
  | cons port ports ih =>
    unfold checkPorts
    rw [bind_eq_ok_iff, List.forall_mem_cons, ← ih, ← checkPort_eq_ok_iff]
    constructor
    . rintro ⟨_, hport, hports⟩
      exact ⟨hport, hports⟩
    . rintro ⟨hport, hports⟩
      exact ⟨(), hport, hports⟩

def Error.RefusesAccess : Error → Prop
  | .invalidWidth _ | .outsideWindow .. | .valueOutOfRange .. => True
  | _ => False

namespace Width

theorem bytes_of_ofBytes_eq_ok {n : Nat} {width : Width} (h : ofBytes n = .ok width)
    : width.bytes = n := by
  unfold ofBytes at h
  split at h <;> cases h <;> rfl

theorem refusesAccess_of_ofBytes_eq_error {n : Nat} {e : Error} (h : ofBytes n = .error e)
    : e.RefusesAccess := by
  unfold ofBytes at h
  split at h <;> cases h
  trivial

theorem bytes_pos (w : Width) : 0 < w.bytes := by
  cases w <;> decide

theorem align_mod (w : Width) (address : Nat) : w.align address % w.bytes = 0 := by
  unfold align
  apply Nat.sub_mod_eq_zero_of_mod_eq
  rw [Nat.mod_mod]

def IsSize (n : Nat) : Prop :=
  n = 1 ∨ n = 2 ∨ n = 4 ∨ n = 8

instance (n : Nat) : Decidable (IsSize n) :=
  inferInstanceAs (Decidable (_ ∨ _))

theorem isSize_bytes (w : Width) : IsSize w.bytes := by
  cases w <;> decide

theorem IsSize.pos {n : Nat} (h : IsSize n) : 0 < n := by
  unfold IsSize at h
  omega

theorem IsSize.le {n : Nat} (h : IsSize n) : n ≤ 8 := by
  unfold IsSize at h
  omega

theorem exists_ofBytes_eq_ok {n : Nat} (h : IsSize n) : ∃ width, ofBytes n = .ok width := by
  rcases h with rfl | rfl | rfl | rfl <;> exact ⟨_, rfl⟩

theorem ofBytes_of_not_isSize {n : Nat} (h : ¬ IsSize n) : ofBytes n = .error (.invalidWidth n) := by
  unfold ofBytes
  split
  . exact absurd (by decide) h
  . exact absurd (by decide) h
  . exact absurd (by decide) h
  . exact absurd (by decide) h
  . rfl

theorem le_maxValue_iff (w : Width) (value : Nat) : value ≤ w.maxValue ↔ value < 2 ^ (8 * w.bytes) := by
  have hpos : 0 < 2 ^ (8 * w.bytes) := Nat.two_pow_pos _
  unfold maxValue
  rw [Nat.one_shiftLeft]
  omega

end Width

namespace Window

theorem checkSpan_eq_ok_iff {size address length : Nat}
    : checkSpan size address length = .ok () ↔ address + length ≤ size := by
  unfold checkSpan
  split
  . simp [*]
  . simp [*]

theorem refusesAccess_of_checkSpan_eq_error {size address length : Nat} {e : Error}
    (h : checkSpan size address length = .error e)
    : e.RefusesAccess := by
  unfold checkSpan at h
  split at h <;> cases h
  trivial

theorem locate_eq {width : Width} {n : Nat} (hwidth : Width.ofBytes n = .ok width) (size address : Nat)
    : locate size address n
        =
      (checkSpan size (address - address % n) n).map fun _ => (width, address - address % n) := by
  unfold locate
  rw [hwidth, ← Width.bytes_of_ofBytes_eq_ok hwidth]
  change (checkSpan size (address - address % width.bytes) width.bytes >>= _) = _
  cases checkSpan size (address - address % width.bytes) width.bytes <;> rfl

theorem locate_of_not_isSize {n : Nat} (h : ¬ Width.IsSize n) (size address : Nat)
    : locate size address n = .error (.invalidWidth n) := by
  unfold locate
  rw [Width.ofBytes_of_not_isSize h]
  rfl

theorem locate_of_outside {size address n : Nat} (h : Width.IsSize n) (houtside : size < address - address % n + n)
    : locate size address n = .error (.outsideWindow (address - address % n) n) := by
  obtain ⟨width, hwidth⟩ := Width.exists_ofBytes_eq_ok h
  rw [locate_eq hwidth, checkSpan, if_neg (Nat.not_le.mpr houtside)]
  rfl

theorem exists_locate_eq_ok {size address n : Nat} (h : Width.IsSize n) (hinside : address - address % n + n ≤ size)
    : ∃ width, width.bytes = n ∧ locate size address n = .ok (width, address - address % n) := by
  obtain ⟨width, hwidth⟩ := Width.exists_ofBytes_eq_ok h
  refine ⟨width, Width.bytes_of_ofBytes_eq_ok hwidth, ?_⟩
  rw [locate_eq hwidth, checkSpan_eq_ok_iff.mpr hinside]
  rfl

theorem place_of_locate_eq_ok {size address n place : Nat} {width : Width}
    (h : locate size address n = .ok (width, place))
    : width.bytes = n ∧ place = address - address % n ∧ place + n ≤ size := by
  by_cases hsize : Width.IsSize n
  . by_cases hinside : address - address % n + n ≤ size
    . obtain ⟨width, hwidth, hlocate⟩ := exists_locate_eq_ok hsize hinside
      rw [hlocate] at h
      cases h
      exact ⟨hwidth, rfl, hinside⟩
    . rw [locate_of_outside hsize (Nat.not_le.mp hinside)] at h
      cases h
  . rw [locate_of_not_isSize hsize] at h
    cases h

structure Located (size : Nat) (width : Width) (address : Nat) : Prop where
  inside : address + width.bytes ≤ size
  aligned : address % width.bytes = 0

theorem located_of_locate_eq_ok {size address bytes : Nat} {width : Width} {aligned : Nat}
    (h : locate size address bytes = .ok (width, aligned))
    : Located size width aligned := by
  unfold locate at h
  obtain ⟨w, hwidth, h⟩ := bind_eq_ok_iff.mp h
  obtain ⟨_, hspan, h⟩ := bind_eq_ok_iff.mp h
  cases h
  rw [checkSpan_eq_ok_iff, ← Width.bytes_of_ofBytes_eq_ok hwidth] at hspan
  exact ⟨hspan, Width.align_mod width address⟩

theorem refusesAccess_of_locate_eq_error {size address bytes : Nat} {e : Error}
    (h : locate size address bytes = .error e)
    : e.RefusesAccess := by
  unfold locate at h
  rcases bind_eq_error_iff.mp h with hwidth | ⟨w, _, h⟩
  . exact Width.refusesAccess_of_ofBytes_eq_error hwidth
  . rcases bind_eq_error_iff.mp h with hspan | ⟨_, _, h⟩
    . exact refusesAccess_of_checkSpan_eq_error hspan
    . cases h

theorem located_of_validate_eq_ok {size address bytes : Nat} {value : UInt64} {width : Width}
    {aligned : Nat} (h : validate size address bytes value = .ok (width, aligned))
    : Located size width aligned := by
  unfold validate at h
  obtain ⟨⟨w, place⟩, hlocate, h⟩ := bind_eq_ok_iff.mp h
  dsimp only at h
  split at h
  . cases h
    exact located_of_locate_eq_ok hlocate
  . cases h

def Writes (size address n : Nat) (value : UInt64) : Prop :=
  Width.IsSize n ∧ address - address % n + n ≤ size ∧ value.toNat < 2 ^ (8 * n)

instance (size address n : Nat) (value : UInt64) : Decidable (Writes size address n value) :=
  inferInstanceAs (Decidable (_ ∧ _))

theorem exists_validate_eq_ok {size address n : Nat} {value : UInt64} (h : Writes size address n value)
    : ∃ width, width.bytes = n ∧ validate size address n value = .ok (width, address - address % n) := by
  obtain ⟨hsize, hinside, hvalue⟩ := h
  obtain ⟨width, hwidth, hlocate⟩ := exists_locate_eq_ok hsize hinside
  refine ⟨width, hwidth, ?_⟩
  rw [← hwidth] at hvalue
  unfold validate
  rw [hlocate]
  exact if_pos ((width.le_maxValue_iff value.toNat).mpr hvalue)

theorem writes_of_validate_eq_ok {size address n place : Nat} {value : UInt64} {width : Width}
    (h : validate size address n value = .ok (width, place))
    : Writes size address n value ∧ width.bytes = n ∧ place = address - address % n := by
  unfold validate at h
  obtain ⟨⟨w, middle⟩, hlocate, h⟩ := bind_eq_ok_iff.mp h
  dsimp only at h
  split at h
  . next hvalue =>
    cases h
    obtain ⟨rfl, rfl, hinside⟩ := place_of_locate_eq_ok hlocate
    exact ⟨⟨width.isSize_bytes, hinside, (width.le_maxValue_iff value.toNat).mp hvalue⟩, rfl, rfl⟩
  . cases h

theorem exists_validate_eq_error {size address n : Nat} {value : UInt64} (h : ¬ Writes size address n value)
    : ∃ e, validate size address n value = .error e := by
  cases hvalidate : validate size address n value with
  | error e => exact ⟨e, rfl⟩
  | ok place => exact absurd (writes_of_validate_eq_ok hvalidate).1 h

theorem refusesAccess_of_validate_eq_error {size address bytes : Nat} {value : UInt64} {e : Error}
    (h : validate size address bytes value = .error e)
    : e.RefusesAccess := by
  unfold validate at h
  rcases bind_eq_error_iff.mp h with hlocate | ⟨⟨w, place⟩, _, h⟩
  . exact refusesAccess_of_locate_eq_error hlocate
  . dsimp only at h
    split at h
    . cases h
    . cases h
      trivial

end Window
end PcieSwitch
