import PcieSwitch.Proofs.RegisterWindows
import PcieSwitch.Simulation.Switch

/-!
This module contains what the windows do with direct accesses, which nothing has checked before. A mapping
refuses those that do not lie in it. The firmware's commands are sent for any place.
-/

namespace PcieSwitch

inductive DirectAccess where
  | read (offset : Nat) (width : Width)
  | write (offset : Nat) (width : Width) (value : UInt64)
  | readBytes (offset length : Nat)
  deriving DecidableEq, Repr

namespace DirectAccess

def stop : DirectAccess → Nat
  | .read offset width => offset + width.bytes
  | .write offset width _ => offset + width.bytes
  | .readBytes offset length => offset + length

def firstCommand : DirectAccess → Option Exchange
  | .read offset width => some (.readWindow offset width.bytes)
  | .write offset width value => some (.writeWindow offset (.ofNat width.bytes value.toNat))
  | .readBytes offset length =>
    if length = 0 then none else some (.readWindow offset (min maxDataLength length))

end DirectAccess

def Window.direct [Monad m] (w : Window m) : DirectAccess → ExceptT Error m Unit
  | .read offset width => do
    let _ ← w.read offset width
  | .write offset width value => w.write offset width value
  | .readBytes offset length => do
    let _ ← w.readBytes offset length

def Refuses (work : ExceptT Error (Program I) α) : Prop :=
  ∃ e, work.run = .done (.error e)

theorem refuses_throw (e : Error) : Refuses (throw e : ExceptT Error (Program I) α) := by
  exact ⟨e, rfl⟩

theorem Refuses.bind {work : ExceptT Error (Program I) α} (h : Refuses work)
    (f : α → ExceptT Error (Program I) β)
    : Refuses (work >>= f) := by
  obtain ⟨e, hrun⟩ := h
  refine ⟨e, ?_⟩
  rw [ExceptT.run_bind, hrun]
  rfl

namespace Mapping

theorem refuses_locate_bind {m : Mapping} {offset length alignment : Nat} (h : m.size < offset + length)
    (f : Unit → ExceptT Error (Program I) α)
    : Refuses (ofExcept (m.locate offset length alignment) >>= f) := by
  have hlocate : m.locate offset length alignment = .error (.outsideWindow offset length) := by
    unfold locate
    rw [if_pos h]
  rw [hlocate]
  apply Refuses.bind
  apply refuses_throw

theorem refuses_direct {m : Mapping} {a : DirectAccess} (h : m.size < a.stop)
    : Refuses (m.window.direct a) := by
  cases a with
  | read offset width =>
    apply Refuses.bind
    apply refuses_locate_bind h
  | write offset width value =>
    unfold Window.direct window
    dsimp only
    split
    . apply refuses_locate_bind h
    . apply Refuses.bind
      apply refuses_throw
  | readBytes offset length =>
    apply Refuses.bind
    apply refuses_locate_bind h

end Mapping

namespace Operation

def StartsWith (operation : Operation α) (x : Exchange) : Prop :=
  ∀ sent result, operation.Sends sent result → ∃ answer rest, sent = (x, answer) :: rest

theorem StartsWith.not_refuses {operation : Operation α} {x : Exchange} (h : operation.StartsWith x)
    : ¬ Refuses operation := by
  rintro ⟨e, hrun⟩
  have hsends : operation.Sends [] (.error e) := by
    refine ⟨[], ?_, rfl⟩
    rw [hrun]
    apply Program.Yields.done
  obtain ⟨_, _, hsent⟩ := h [] (.error e) hsends
  contradiction

theorem StartsWith.bind {operation : Operation α} {x : Exchange} (h : operation.StartsWith x)
    (f : α → Operation β)
    : Operation.StartsWith (operation >>= f) x := by
  intro sent result hsends
  rcases sends_bind.mp hsends with ⟨e, hfail, _⟩ | ⟨value, s₁, s₂, rfl, hfirst, _⟩
  . exact h sent _ hfail
  . obtain ⟨answer, rest, rfl⟩ := h s₁ _ hfirst
    exact ⟨answer, rest ++ s₂, rfl⟩

end Operation

namespace Handle

theorem request_startsWith {h : Handle} {r : Request} (hfits : r.Fits h.generation)
    : (h.request r).StartsWith (r.exchange h.generation) := by
  intro sent result hsends
  obtain ⟨answer, rfl, _⟩ := (sends_request hfits).mp hsends
  exact ⟨answer, [], rfl⟩

theorem readBytes_startsWith (h : Handle) (offset : Nat) {length : Nat} (hpos : 0 < length)
    : (Tunnelled.readBytes h offset length).StartsWith (.readWindow offset (min maxDataLength length)) := by
  have hmax : min maxDataLength length ≤ maxDataLength := Nat.min_le_left _ _
  unfold Tunnelled.readBytes
  rw [spans_cons (by decide) hpos, Tunnelled.readBytes.go]
  apply Operation.StartsWith.bind
  rw [← Request.exchange_readWindow h.generation offset hmax]
  apply request_startsWith
  exact Request.fits_readWindow h.generation offset hmax

theorem writeBytes_startsWith (h : Handle) (offset : Nat) {data : Bytes} (hne : data ≠ [])
    (hpiece : data.length ≤ Tunnelled.maxWrite)
    : (Tunnelled.writeBytes h offset data).StartsWith (.writeWindow offset data) := by
  have hmax : 8 + data.length ≤ maxDataLength := Tunnelled.add_le_of_le_maxWrite hpiece
  unfold Tunnelled.writeBytes Tunnelled.placed
  rw [pages_of_length_le (by decide) hne hpiece, Tunnelled.placed.go, Tunnelled.writeBytes.go]
  apply Operation.StartsWith.bind
  apply Operation.StartsWith.bind
  rw [← Request.exchange_writeWindow h.generation]
  apply request_startsWith
  exact Request.fits_writeWindow h.generation offset hmax

theorem direct_startsWith (h : Handle) {a : DirectAccess} {x : Exchange} (hfirst : a.firstCommand = some x)
    : Operation.StartsWith (h.window.direct a) x := by
  cases a with
  | read offset width =>
    cases hfirst
    have hmax : width.bytes ≤ maxDataLength := by cases width <;> decide
    have hread := h.readBytes_startsWith offset width.bytes_pos
    rw [Nat.min_eq_right hmax] at hread
    apply Operation.StartsWith.bind
    apply Operation.StartsWith.bind
    exact hread
  | write offset width value =>
    cases hfirst
    have hlength : (Bytes.ofNat width.bytes value.toNat).length = width.bytes := Bytes.length_ofNat _ _
    apply writeBytes_startsWith
    . apply List.ne_nil_of_length_pos
      rw [hlength]
      exact width.bytes_pos
    . rw [hlength]
      cases width <;> decide
  | readBytes offset length =>
    unfold DirectAccess.firstCommand at hfirst
    dsimp only at hfirst
    split at hfirst
    . cases hfirst
    . cases hfirst
      apply Operation.StartsWith.bind
      apply readBytes_startsWith
      omega

theorem not_refuses_direct (h : Handle) (a : DirectAccess) : ¬ Refuses (h.window.direct a) := by
  cases hfirst : a.firstCommand with
  | some x => exact (h.direct_startsWith hfirst).not_refuses
  | none =>
    -- only a read of nothing takes no command, and it succeeds
    cases a with
    | read | write => cases hfirst
    | readBytes offset length =>
      unfold DirectAccess.firstCommand at hfirst
      dsimp only at hfirst
      split at hfirst
      . next hzero =>
        unfold Window.direct window Tunnelled.readBytes
        dsimp only
        rw [hzero, spans_zero]
        rintro ⟨e, hrun⟩
        cases hrun
      . cases hfirst

end Handle

/--
A mapping of any size refuses every direct access that does not end in it, and touches no register for it.
The firmware's commands refuse no direct access: they are sent with the low 32 bits of its place. So they
keep to the window for just those accesses that lie in it.
-/
theorem direct_access_refused_iff (a : DirectAccess) (m : Mapping) (h : Handle)
    : (m.window.size < a.stop → Refuses (m.window.direct a))
        ∧
      ((h.window.size < a.stop → Refuses (h.window.direct a)) ↔ a.stop ≤ h.window.size)
        ∧
      ∀ x, a.firstCommand = some x → Operation.StartsWith (h.window.direct a) x := by
  refine ⟨Mapping.refuses_direct, ?_, fun x => h.direct_startsWith⟩
  constructor
  . intro hrefuses
    rw [← Nat.not_lt]
    intro houtside
    exact h.not_refuses_direct a (hrefuses houtside)
  . intro hinside houtside
    omega

/--
Four bytes right behind the window are read all the same.
-/
theorem read_behind_window_is_sent
    : let h : Handle := { name := "switchtec0", partition := 0, generation := .gen4 }
      let a : DirectAccess := .read windowSize .w32
      h.window.size < a.stop
        ∧
      ¬ Refuses (h.window.direct a)
        ∧
      (Operation.sent Simulation.Switch.device (h.window.direct a) {}).map Prod.fst
        = [⟨39, [0, 0, 64, 0, 4, 0, 0, 0], 4⟩] := by
  refine ⟨by decide, Handle.not_refuses_direct _ _, ?_⟩
  decide +kernel

end PcieSwitch
