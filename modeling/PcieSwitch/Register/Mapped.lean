import PcieSwitch.Device.Handle
import PcieSwitch.Register.Window

/-!
This module contains the register window as a mapping into memory. The mapping keeps its accesses inside
itself and aligned, on its own.
-/

namespace PcieSwitch

inductive MemoryCall where
  | load (offset length : Nat)
  | store (offset : Nat) (data : Bytes)
  deriving DecidableEq, Repr

abbrev MemoryCall.Answer : MemoryCall → Type
  | .load .. => Bytes
  | .store .. => Unit

abbrev memoryInterface : Interface where
  Call := MemoryCall
  Answer := MemoryCall.Answer

def memory : Handler memoryInterface Bytes
  | .load offset length, bytes => ((bytes.drop offset).take length, bytes)
  | .store offset data, bytes => ((), bytes.overwrite offset data)

structure Mapping where
  size : Nat
  writable : Bool
  deriving DecidableEq, Repr

namespace Mapping

def locate (m : Mapping) (offset length alignment : Nat) : Except Error Unit :=
  if m.size < offset + length then .error (.outsideWindow offset length)
  else if offset % alignment ≠ 0 then .error (.misaligned offset alignment)
  else .ok ()

def load (offset length : Nat) : ExceptT Error (Program memoryInterface) Bytes :=
  ExceptT.lift (Program.call (I := memoryInterface) (.load offset length))

def store (offset : Nat) (data : Bytes) : ExceptT Error (Program memoryInterface) Unit :=
  ExceptT.lift (Program.call (I := memoryInterface) (.store offset data))

def window (m : Mapping) : Window (Program memoryInterface) where
  size := m.size
  read offset width := do
    ofExcept (m.locate offset width.bytes width.bytes)
    return UInt64.ofNat (← load offset width.bytes).toNat
  write offset width value := do
    unless m.writable do
      throw (.unsupported "write through a read-only mapping")
    ofExcept (m.locate offset width.bytes width.bytes)
    store offset (Bytes.ofNat width.bytes value.toNat)
  readBytes offset length := do
    ofExcept (m.locate offset length 1)
    load offset length

/--
Map a file of registers. An empty file cannot be mapped.
-/
def ofFile (length : Nat) (writable : Bool) : Except Error Mapping :=
  if length = 0 then .error (.mapping .invalidArgument) else .ok ⟨length, writable⟩

end Mapping

def Handle.registerFile (h : Handle) : Except Error String :=
  match h.directory with
  | some directory => .ok (directory ++ "/device/resource0_wc")
  | none => .error (.unsupported "mapping the GAS of this device")

def Handle.mapRegisters [Monad m] (h : Handle) (writable : Bool)
    (openFile : (path : String) → m (Except SystemError Nat)) : ExceptT Error m Mapping := do
  let path ← ofExcept h.registerFile
  match ← ExceptT.lift (openFile path) with
  | .error e => throw (.mapping e)
  | .ok length => ofExcept (Mapping.ofFile length writable)
end PcieSwitch
