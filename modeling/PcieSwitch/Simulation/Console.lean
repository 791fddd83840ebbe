import PcieSwitch.CommandLine.Consent
import PcieSwitch.Simulation.Switch

/-!
This module contains a simulated user at a console: a simulated switch, input that is known beforehand, and
a record of all output.
-/

namespace PcieSwitch

namespace Simulation

structure Console where
  switch : Switch := {}
  opening : (name : String) → Except Error Handle
  devices : List DeviceInfo := []
  registers : Option Bytes := none
  input : Bytes := []
  files : List (String × Bytes) := []
  environment : List (String × String) := []
  /-- What was printed, the latest first. -/
  printed : List Bytes := []
  reported : List String := []

namespace Console

def accessMemory (call : MemoryCall) (c : Console) : call.Answer × Console :=
  let (answer, bytes) := memory call (c.registers.getD [])
  (answer, { c with registers := c.registers.map fun _ => bytes })

def answer : Handler sessionInterface Console
  | .openDevice name, c => (c.opening name, c)
  | .listDevices, c => (.ok c.devices, c)
  | .device call, c =>
    let (answer, switch) := Switch.device call c.switch
    (answer, { c with switch })
  | .openRegisters _ _, c => (c.registers.elim (.error .notFound) fun bytes => .ok bytes.length, c)
  | .memory call, c => accessMemory call c
  | .contents path, c => ((c.files.lookup path).elim (FileSystem.empty.contents path) .ok, c)
  | .isThere path, c => ((c.files.lookup path).isSome || FileSystem.empty.isThere path, c)
  | .variable name, c => (c.environment.lookup name, c)
  | .print data, c => ((), { c with printed := data :: c.printed })
  | .report text, c => ((), { c with reported := text :: c.reported })
  | .question _, c => (Consent.firstLine c.input, { c with input := c.input.drop (Consent.firstLine c.input).length })
  | .sleep _, c => ((), c)
  | .calendar, c => (0, c)
  | .log _ _, c => ((), c)

def output (c : Console) : Bytes :=
  c.printed.reverse.flatten

def messages (c : Console) : String :=
  String.join c.reported.reverse

def perform (session : Session α) (c : Console) : Except Failure α × Console :=
  session.run.run answer c

end Console
end Simulation
end PcieSwitch
