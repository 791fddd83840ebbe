import PcieSwitch.CommandLine.Consent
import PcieSwitch.CommandLine.Invocation
import PcieSwitch.Hexdump
import PcieSwitch.Pages
import PcieSwitch.Text.Utf8

/-!
This module contains the commands that read and write the switch's registers. Their output is taken to be a file or a
pipe that holds all of it: the pager that shows a dump on a terminal is not part of this.
-/

namespace PcieSwitch

namespace Context

abbrev Registers := Window (Program sessionInterface)

def registers (c : Context) (writable : Bool) : Session Registers := do
  let h ← c.openDevice
  if c.tunnelled then
    return h.window.map Session.onDevice
  else
    let mapping ← Session.within "gas_map" (Session.ofDevice (h.mapRegisters writable fun path =>
      Program.call (I := sessionInterface) (.openRegisters path writable)))
    return mapping.window.map Session.onMemory

def dumpBlock : Nat := 4096

def dumpLength (size : Nat) (count : Option Nat) : Nat :=
  match count with
  | none => size
  | some n => if n ≠ 0 ∧ n < size then n else size

def dumpRaw (w : Registers) : List (Nat × Nat) → Session Unit
  | [] => return
  | (address, length) :: rest => do
    Session.ask (.print (← Session.ofDevice (w.readSpan address length)))
    dumpRaw w rest

def dumpText (w : Registers) (d : Hexdump) : List (Nat × Nat) → Session Unit
  | [] => Session.print d.finish
  | (address, length) :: rest => do
    let (d, text) := d.feed (← Session.ofDevice (w.readSpan address length))
    Session.print text
    dumpText w d rest

def dump (c : Context) (count : Option Nat) (text : Bool) : Session Unit := do
  let w ← registers c false
  let blocks := spans dumpBlock 0 (dumpLength w.size count)
  if text then dumpText w (.start 0) blocks else dumpRaw w blocks

def registerLine (w : Registers) (address bytes : Nat) (style : PrintStyle) : Session String := do
  match style with
  | .hex =>
    let (address, value) ← Session.ofDevice (w.readRegister address bytes)
    return Text.hexUpper address 6 ++ " - 0x" ++ Text.hexUpper value.toNat (2 * bytes)
  | .dec =>
    let (address, value) ← Session.ofDevice (w.readRegister address bytes)
    return Text.hexUpper address 6 ++ " - " ++ toString value.toNat
  | .text =>
    let data ← Session.ofDevice (w.readSpan address bytes)
    return Text.hexUpper address 6 ++ " - " ++ String.ofList (Utf8.lossy (data.takeWhile (· ≠ 0)))

def printRegisters (w : Registers) (address bytes : Nat) (style : PrintStyle) : (count : Nat) → Session Unit
  | 0 => return
  | count + 1 => do
    Session.printLine (← registerLine w address bytes style)
    printRegisters w (address + bytes) bytes style count

def readRegisters (c : Context) (address bytes count : Nat) (style : PrintStyle) : Session Unit := do
  let w ← registers c false
  printRegisters w address bytes style count

def writeRegister (c : Context) (address bytes : Nat) (value : UInt64) (yes : Bool) : Session Unit := do
  let w ← registers c true
  let _ ← Session.within "gas write" (Session.ofDevice (ofExcept (Window.validate w.size address bytes value)))
  if !yes then
    Session.report ("Writing 0x" ++ Text.hex value.toNat ++ " to " ++ Text.hex address 6 ++ s!" ({bytes} bytes).")
  Consent.require yes
  let _ ← Session.within "gas write" (Session.ofDevice (w.writeRegister address bytes value))

end Context
end PcieSwitch
