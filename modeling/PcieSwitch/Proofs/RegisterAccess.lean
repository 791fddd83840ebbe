import PcieSwitch.Proofs.Attempt
import PcieSwitch.Proofs.Checks
import PcieSwitch.Proofs.RegisterMemory

/-!
This module contains sequences of checked accesses to registers. What they do to a string of bytes is their
meaning. A window whose direct accesses act on such a string as loads and stores gives every sequence this
meaning, so any two such windows agree.
-/

namespace PcieSwitch

inductive Access where
  | read (address bytes : Nat)
  | write (address bytes : Nat) (value : UInt64)
  | validate (address bytes : Nat) (value : UInt64)
  | readSpan (address length : Nat)
  deriving DecidableEq, Repr

inductive Outcome where
  | register (address : Nat) (value : UInt64)
  | written (address : Nat)
  | valid (width : Width) (address : Nat)
  | span (data : Bytes)
  deriving DecidableEq, Repr

namespace Window

variable [Monad m]

def perform (w : Window m) : Access → ExceptT Error m Outcome
  | .read address bytes => do
    let (address, value) ← w.readRegister address bytes
    return .register address value
  | .write address bytes value => do
    let address ← w.writeRegister address bytes value
    return .written address
  | .validate address bytes value => do
    let (width, address) ← ofExcept (validate w.size address bytes value)
    return .valid width address
  | .readSpan address length => do
    let data ← w.readSpan address length
    return .span data

def performAll (w : Window m) : List Access → m (List (Except Error Outcome))
  | [] => return []
  | access :: rest => do
    let outcome ← (w.perform access).run
    let outcomes ← w.performAll rest
    return outcome :: outcomes

end Window

namespace Access

def effect (registers : Bytes) : Access → Except Error (Outcome × Bytes)
  | .read address bytes => do
    let (width, address) ← Window.locate registers.length address bytes
    let value := UInt64.ofNat (registers.slice address width.bytes).toNat
    return (.register address value, registers)
  | .write address bytes value => do
    let (width, address) ← Window.validate registers.length address bytes value
    return (.written address, registers.overwrite address (Bytes.ofNat width.bytes value.toNat))
  | .validate address bytes value => do
    let (width, address) ← Window.validate registers.length address bytes value
    return (.valid width address, registers)
  | .readSpan address length => do
    Window.checkSpan registers.length address length
    return (.span (registers.slice address length), registers)

def onRegisters (registers : Bytes) (access : Access) : Except Error Outcome × Bytes :=
  match access.effect registers with
  | .ok (outcome, left) => (.ok outcome, left)
  | .error e => (.error e, registers)

def allOnRegisters (registers : Bytes) : List Access → List (Except Error Outcome) × Bytes
  | [] => ([], registers)
  | access :: rest =>
    let (outcome, registers) := access.onRegisters registers
    let (outcomes, registers) := allOnRegisters registers rest
    (outcome :: outcomes, registers)

theorem length_of_effect_eq_ok {access : Access} {registers left : Bytes} {outcome : Outcome}
    (h : access.effect registers = .ok (outcome, left))
    : left.length = registers.length := by
  cases access with
  | read | validate | readSpan =>
    obtain ⟨_, _, h⟩ := bind_eq_ok_iff.mp h
    cases h
    rfl
  | write =>
    obtain ⟨_, _, h⟩ := bind_eq_ok_iff.mp h
    cases h
    apply Bytes.length_overwrite

theorem refusesAccess_of_effect_eq_error {access : Access} {registers : Bytes} {e : Error}
    (h : access.effect registers = .error e)
    : e.RefusesAccess := by
  cases access with
  | read =>
    rcases bind_eq_error_iff.mp h with hcheck | ⟨_, _, h⟩
    . exact Window.refusesAccess_of_locate_eq_error hcheck
    . cases h
  | write | validate =>
    rcases bind_eq_error_iff.mp h with hcheck | ⟨_, _, h⟩
    . exact Window.refusesAccess_of_validate_eq_error hcheck
    . cases h
  | readSpan =>
    rcases bind_eq_error_iff.mp h with hcheck | ⟨_, _, h⟩
    . exact Window.refusesAccess_of_checkSpan_eq_error hcheck
    . cases h

theorem length_onRegisters (access : Access) (registers : Bytes)
    : (access.onRegisters registers).2.length = registers.length := by
  unfold onRegisters
  split
  . next h => exact length_of_effect_eq_ok h
  . rfl

theorem refusesAccess_of_mem_allOnRegisters {accesses : List Access} {registers : Bytes} {e : Error}
    (h : .error e ∈ (allOnRegisters registers accesses).1)
    : e.RefusesAccess := by
  induction accesses generalizing registers with
  | nil => contradiction
  | cons access rest ih =>
    unfold allOnRegisters at h
    rcases List.mem_cons.mp h with hfirst | hrest
    . unfold onRegisters at hfirst
      split at hfirst
      . cases hfirst
      . next hfail =>
        cases hfirst
        exact refusesAccess_of_effect_eq_error hfail
    . exact ih hrest

end Access

namespace Window

open Program

/--
The direct accesses of a window, where they lie inside it, load from and store to registers that are part
of the outside.
-/
structure Views (w : Window (Program I)) (outside : Handler I σ) (registers : σ → Bytes) : Prop where
  read : ∀ {s offset width}, (registers s).length = w.size → Located w.size width offset →
    ∃ s',
      attempt outside (w.read offset width) s
        =
      (.ok (UInt64.ofNat ((registers s).slice offset width.bytes).toNat), s')
        ∧
      registers s' = registers s
  write : ∀ {s offset width}, (registers s).length = w.size → Located w.size width offset →
    ∀ value, ∃ s',
      attempt outside (w.write offset width value) s = (.ok (), s')
        ∧
      registers s' = (registers s).overwrite offset (Bytes.ofNat width.bytes value.toNat)
  readBytes : ∀ {s offset length}, (registers s).length = w.size → offset + length ≤ w.size →
    ∃ s',
      attempt outside (w.readBytes offset length) s = (.ok ((registers s).slice offset length), s')
        ∧
      registers s' = registers s

theorem run_performAll_cons (w : Window (Program I)) (outside : Handler I σ) (access : Access)
    (rest : List Access) (s : σ)
    : (w.performAll (access :: rest)).run outside s
        =
      let (outcome, s') := attempt outside (w.perform access) s
      let (outcomes, s'') := (w.performAll rest).run outside s'
      (outcome :: outcomes, s'') := by
  rw [performAll]
  apply Eq.trans (run_bind outside _ _ s)
  exact run_bind outside (w.performAll rest) _ _

namespace Views

variable {I : Interface} {w : Window (Program I)} {outside : Handler I σ} {registers : σ → Bytes}

theorem attempt_perform (hviews : w.Views outside registers) {s : σ}
    (hlength : (registers s).length = w.size) (access : Access)
    : ∃ s',
        attempt outside (w.perform access) s = ((access.onRegisters (registers s)).1, s')
          ∧
        registers s' = (access.onRegisters (registers s)).2 := by
  unfold Access.onRegisters Access.effect
  rw [hlength]
  -- an access that passes its check is at a place that the view speaks of
  cases access with
  | read address bytes =>
    unfold perform readRegister
    simp only [attempt_bind, attempt_ofExcept]
    cases hcheck : locate w.size address bytes with
    | error e => exact ⟨s, rfl, rfl⟩
    | ok place =>
      obtain ⟨s', hread, hleft⟩ := hviews.read hlength (located_of_locate_eq_ok hcheck)
      refine ⟨s', ?_, hleft⟩
      dsimp only
      rw [hread]
      rfl
  | write address bytes value =>
    unfold perform writeRegister
    simp only [attempt_bind, attempt_ofExcept]
    cases hcheck : validate w.size address bytes value with
    | error e => exact ⟨s, rfl, rfl⟩
    | ok place =>
      obtain ⟨s', hwrite, hleft⟩ := hviews.write hlength (located_of_validate_eq_ok hcheck) value
      refine ⟨s', ?_, hleft⟩
      dsimp only
      rw [hwrite]
      rfl
  | validate address bytes value =>
    unfold perform
    simp only [attempt_bind, attempt_ofExcept]
    cases validate w.size address bytes value with
    | error e => exact ⟨s, rfl, rfl⟩
    | ok place => exact ⟨s, rfl, rfl⟩
  | readSpan address length =>
    unfold perform readSpan
    simp only [attempt_bind, attempt_ofExcept]
    cases hcheck : checkSpan w.size address length with
    | error e => exact ⟨s, rfl, rfl⟩
    | ok _ =>
      obtain ⟨s', hread, hleft⟩ := hviews.readBytes hlength (checkSpan_eq_ok_iff.mp hcheck)
      refine ⟨s', ?_, hleft⟩
      dsimp only
      rw [hread]
      rfl

theorem run_performAll (hviews : w.Views outside registers) {s : σ}
    (hlength : (registers s).length = w.size) (accesses : List Access)
    : ((w.performAll accesses).run outside s).1 = (Access.allOnRegisters (registers s) accesses).1
        ∧
      registers ((w.performAll accesses).run outside s).2
        =
      (Access.allOnRegisters (registers s) accesses).2 := by
  induction accesses generalizing s with
  | nil => exact ⟨rfl, rfl⟩
  | cons access rest ih =>
    obtain ⟨s', hperform, hleft⟩ := hviews.attempt_perform hlength access
    -- no access changes the length, so the rest still meets registers of the window's size
    have hnext : (registers s').length = w.size := by
      rw [hleft, Access.length_onRegisters, hlength]
    obtain ⟨houtcomes, hregisters⟩ := ih hnext
    unfold Access.allOnRegisters
    dsimp only
    rw [run_performAll_cons, hperform, ← hleft]
    exact ⟨congrArg (_ :: ·) houtcomes, hregisters⟩

end Views
end Window
end PcieSwitch
