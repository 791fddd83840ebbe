import PcieSwitch.CharDevice.Events
import PcieSwitch.Proofs.Attempt

/-!
This module contains a switch whose driver is reached through a character device, and the calls on the device that an
operation comes to.
-/

namespace PcieSwitch

def Handler.driving (file : Handler fileInterface φ) (others : Handler deviceInterface σ)
    : Handler deviceInterface (φ × σ)
  | .event c, (f, s) =>
    let (answer, f) := c.overFile.run.run file f
    (answer, (f, s))
  | .exchange x, (f, s) =>
    let (answer, s) := others (.exchange x) s
    (answer, (f, s))
  | .now, (f, s) =>
    let (answer, s) := others .now s
    (answer, (f, s))
  | .log line, (f, s) =>
    let (answer, s) := others (.log line) s
    (answer, (f, s))

theorem Handler.traced_apply (outside : Handler I σ) (c : I.Call) (s : σ) (trace : List I.Call)
    : outside.traced c (s, trace) = ((outside c s).1, (outside c s).2, c :: trace) := by
  rfl

namespace FileWork

open Program

theorem attempt_control (file : Handler fileInterface φ) (c : Ioctl) (data : Bytes) (f : φ)
    : attempt file (control c data) f
        =
      (wrap ((file (.control c data) f).1.mapError SystemError.known), (file (.control c data) f).2) := by
  unfold control
  exact (attempt_bind_of_ok attempt_call).trans (attempt_ofExcept _)

theorem attempt_control_read (file : Handler fileInterface φ) (c : Ioctl) (data : Bytes) (read : Bytes → α) (f : φ)
    : attempt file (do return read (← control c data)) f
        =
      ((wrap ((file (.control c data) f).1.mapError SystemError.known)).map read, (file (.control c data) f).2) := by
  rw [attempt_bind, attempt_control]
  cases (file (.control c data) f).1 with
  | error e => rfl
  | ok answer => rfl

def calling (file : Handler fileInterface φ) (work : FileWork α) (f : φ) : Except Error α × List FileCall :=
  let (result, _, calls) := attempt file.traced work (f, [])
  (result, calls.reverse)

end FileWork

namespace Operation

variable (file : Handler fileInterface φ) (others : Handler deviceInterface σ) (f : φ) (s : σ)

def driven (operation : Operation α) : Except Error α × List FileCall :=
  let (result, (_, calls), _) := Program.attempt (Handler.driving file.traced others) operation ((f, []), s)
  (result, calls.reverse)

theorem driven_throw (e : Error) : (throw e : Operation α).driven file others f s = (.error e, []) := by
  rfl

theorem driven_askEvents {h : Handle} (hevents : h.hasEvents = true) (c : EventCall)
    : (h.askEvents c).driven file others f s = FileWork.calling file c.overFile f := by
  unfold Handle.askEvents
  rw [if_pos hevents]
  rfl

end Operation
end PcieSwitch
