import PcieSwitch.Bytes
import PcieSwitch.Register.Width

/-!
This module contains access to the switch's register window. There is more than one way to reach it; a
`Window` is one such way. Checked access rounds addresses down to the width of the access and refuses what
does not lie in the window before it reaches for it.
-/

namespace PcieSwitch

structure Window (m : Type → Type) where
  size : Nat
  read : (offset : Nat) → Width → ExceptT Error m UInt64
  write : (offset : Nat) → Width → UInt64 → ExceptT Error m Unit
  readBytes : (offset length : Nat) → ExceptT Error m Bytes

namespace Window

def map (f : {α : Type} → m α → n α) (w : Window m) : Window n where
  size := w.size
  read offset width := ExceptT.mk (f (w.read offset width).run)
  write offset width value := ExceptT.mk (f (w.write offset width value).run)
  readBytes offset length := ExceptT.mk (f (w.readBytes offset length).run)

def checkSpan (size address length : Nat) : Except Error Unit :=
  if address + length ≤ size then .ok () else .error (.outsideWindow address length)

def locate (size address bytes : Nat) : Except Error (Width × Nat) := do
  let width ← Width.ofBytes bytes
  let address := width.align address
  checkSpan size address bytes
  return (width, address)

def validate (size address bytes : Nat) (value : UInt64) : Except Error (Width × Nat) := do
  let (width, address) ← locate size address bytes
  if value.toNat ≤ width.maxValue then
    return (width, address)
  else
    throw (.valueOutOfRange "register value" value.toNat width.maxValue)

variable [Monad m]

def readRegister (w : Window m) (address bytes : Nat) : ExceptT Error m (Nat × UInt64) := do
  let (width, address) ← ofExcept (locate w.size address bytes)
  let value ← w.read address width
  return (address, value)

def writeRegister (w : Window m) (address bytes : Nat) (value : UInt64) : ExceptT Error m Nat := do
  let (width, address) ← ofExcept (validate w.size address bytes value)
  w.write address width value
  return address

def readSpan (w : Window m) (address length : Nat) : ExceptT Error m Bytes := do
  ofExcept (checkSpan w.size address length)
  w.readBytes address length

end Window
end PcieSwitch
