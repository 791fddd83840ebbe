import PcieSwitch.CommandLine.Failure
import PcieSwitch.CommandLine.Values
import PcieSwitch.Device.Handle
import PcieSwitch.Discovery.Devices
import PcieSwitch.Register.Mapped
import PcieSwitch.Register.Tunnelled

/-!
This module contains what a command of the program asks of its surroundings: the switch, the user, files,
the environment and the clock.
-/

namespace PcieSwitch

inductive SessionCall where
  /-- Open a switch. Later calls on a device go to the one that was opened last. -/
  | openDevice (name : String)
  | listDevices
  | device (c : DeviceCall)
  /-- Open a file of registers to map it, and tell its length. Later calls on memory go to it. -/
  | openRegisters (path : String) (writable : Bool)
  | memory (c : MemoryCall)
  | contents (path : String)
  | isThere (path : String)
  | variable (name : String)
  | print (data : Bytes)
  | report (text : String)
  | question (text : String)
  | sleep (seconds : Nat)
  | calendar
  | log (level : LogLevel) (line : LogLine)
  deriving DecidableEq, Repr

abbrev SessionCall.Answer : SessionCall → Type
  | .openDevice _ => Except Error Handle
  | .listDevices => Except Error (List DeviceInfo)
  | .device c => c.Answer
  | .openRegisters .. => Except SystemError Nat
  | .memory c => c.Answer
  | .contents _ => Except SystemError Bytes
  | .isThere _ => Bool
  | .variable _ => Option String
  | .print _ | .report _ | .sleep _ | .log .. => Unit
  | .question _ => Bytes
  | .calendar => UInt32

abbrev sessionInterface : Interface where
  Call := SessionCall
  Answer := SessionCall.Answer

abbrev Session (α : Type) := ExceptT Failure (Program sessionInterface) α

namespace Session

def ask (c : SessionCall) : Session c.Answer :=
  ExceptT.lift (Program.call (I := sessionInterface) c)

def within (step : String) (work : Session α) : Session α :=
  ExceptT.mk ((fun result => result.mapError (.within step)) <$> work.run)

def ofDevice (work : ExceptT Error (Program sessionInterface) α) : Session α :=
  ExceptT.mk ((fun result => result.mapError .device) <$> work.run)

def onDevice (program : Program deviceInterface α) : Program sessionInterface α :=
  program.lower fun c => Program.call (I := sessionInterface) (.device c)

def onMemory (program : Program memoryInterface α) : Program sessionInterface α :=
  program.lower fun c => Program.call (I := sessionInterface) (.memory c)

def perform (operation : Operation α) : Session α :=
  ofDevice (ExceptT.mk (onDevice operation.run))

def print (text : String) : Session Unit :=
  ask (.print (Bytes.ofString text))

def printLine (text : String) : Session Unit :=
  print (text ++ "\n")

def printLines (lines : List String) : Session Unit :=
  lines.forM printLine

def printJson (value : Json) : Session Unit :=
  printLine value.pretty

def report (text : String) : Session Unit :=
  ask (.report (text ++ "\n"))

def log (level : LogLevel) (message : String) (values : List (String × String)) : Session Unit :=
  ask (.log level ⟨message, values⟩)

def files : Files (Program sessionInterface) where
  contents path := Program.call (I := sessionInterface) (.contents path)
  isThere path := Program.call (I := sessionInterface) (.isThere path)

end Session

structure Context where
  device : Option String
  measureTime : Nat
  json : Bool
  tunnelled : Bool
  deriving DecidableEq, Repr

namespace Context

def openDevice (c : Context) : Session Handle := do
  match c.device with
  | none => throw .noDevice
  | some name =>
    let h ← Session.within ("open " ++ name) (ExceptT.mk do
      return (← Program.call (I := sessionInterface) (.openDevice name)).mapError .device)
    Session.log .debug "opened device" [
      ("name", name), ("partition", toString h.partition), ("gen", h.generation.name)
    ]
    return h

def output (c : Context) (json : Json) (lines : List String) : Session Unit :=
  if c.json then Session.printJson json else Session.printLines lines

def measure (c : Context) (time : Option Nat) : Session Unit :=
  Session.ask (.sleep (time.getD c.measureTime))

end Context
end PcieSwitch
