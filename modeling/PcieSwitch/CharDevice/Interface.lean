import PcieSwitch.Device.Interface

/-!
This module contains the calls on the character device that the kernel driver offers for a switch.
-/

namespace PcieSwitch

structure Ioctl where
  writes : Bool
  number : Nat
  size : Nat
  deriving DecidableEq, Repr

namespace Ioctl

def family : Nat := 0x57

/--
The request number: two bits of direction, 14 bits of size, and a byte each of family and number. Every
call reads; some write as well.
-/
def request (c : Ioctl) : UInt32 :=
  UInt32.ofNat ((if c.writes then 3 else 2) <<< 30 + c.size <<< 16 + family <<< 8 + c.number)

def summary : Ioctl := ⟨false, 0x42, 1240⟩

def shortSummary : Ioctl := ⟨false, 0x42, 408⟩

def control : Ioctl := ⟨true, 0x43, 40⟩
def portOf : Ioctl := ⟨true, 0x44, 12⟩
def functionOf : Ioctl := ⟨true, 0x45, 12⟩

end Ioctl

inductive FileCall where
  | write (data : Bytes)
  | read (length : Nat)
  | control (c : Ioctl) (data : Bytes)
  | poll (conditions : UInt16) (timeout : Int)
  deriving DecidableEq, Repr

abbrev FileCall.Answer : FileCall → Type
  | .write _ => Except SystemError Nat
  | .read _ => Except SystemError Bytes
  | .control .. => Except SystemError Bytes
  | .poll .. => Except SystemError (Nat × UInt16)

abbrev fileInterface : Interface where
  Call := FileCall
  Answer := FileCall.Answer

abbrev FileWork (α : Type) := ExceptT Error (Program fileInterface) α

namespace FileWork

def wrap : Except SystemError α → Except Error α
  | .ok value => .ok value
  | .error cause => .error (.system cause)

def write (data : Bytes) : FileWork Nat := do
  ofExcept (wrap (← Program.call (I := fileInterface) (.write data)))

def read (length : Nat) : FileWork Bytes := do
  ofExcept (wrap (← Program.call (I := fileInterface) (.read length)))

/--
A control call. Its failure is known by its number, and one that no error has is lost.
-/
def control (c : Ioctl) (data : Bytes) : FileWork Bytes := do
  let result ← Program.call (I := fileInterface) (.control c data)
  ofExcept (wrap (result.mapError SystemError.known))

def poll (conditions : UInt16) (timeout : Int) : FileWork (Nat × UInt16) := do
  ofExcept (wrap (← Program.call (I := fileInterface) (.poll conditions timeout)))

end FileWork
end PcieSwitch
