import PcieSwitch.CommandLine.Invocation
import PcieSwitch.CommandLine.Session
import PcieSwitch.Counter.Operations
import PcieSwitch.Event.Waiting
import PcieSwitch.Report.Masks
import PcieSwitch.Report.Values

/-!
This module contains the commands that concern event counters.
-/

namespace PcieSwitch

namespace Context

abbrev StackCounters := UInt8 × List (CounterSetup × UInt32)

def configured (counters : List (CounterSetup × UInt32)) : List ((CounterSetup × UInt32) × Nat) :=
  counters.zipIdx.filter fun ((setup, _), _) => setup.isConfigured

def stackJson (s : StackCounters) : List Json :=
  (configured s.2).map fun ((setup, count), i) => Report.counterJson s.1 i setup count

def stackLines (s : StackCounters) : List String :=
  let rows := (configured s.2).map fun ((setup, count), i) => Report.counterRow i setup count
  s!"Stack {s.1}:" :: if rows.isEmpty then ["  No event counters enabled."] else rows

def showStacks (c : Context) (readings : List StackCounters) : Session Unit :=
  c.output (.array (readings.flatMap stackJson)) (readings.flatMap stackLines)

/--
The counters of several stacks. Stacks that cannot be read are skipped, since smaller switches lack them.
-/
def readStacks (h : Handle) (reset : Bool) : List UInt8 → Session (List StackCounters)
  | [] => return []
  | stack :: rest => do
    let counters := Session.perform (h.counters stack 0 maxEventCounters reset)
    match ← ExceptT.lift counters.run with
    | .ok counters => return (stack, counters) :: (← readStacks h reset rest)
    | .error cause =>
      Session.log .debug "skipping stack" [("stack", toString stack), ("error", cause.message)]
      readStacks h reset rest

def allStacks : List UInt8 :=
  (List.range maxStacks).map UInt8.ofNat

def counters (c : Context) (stack : Option UInt8) (reset : Bool) : Session Unit := do
  let h ← c.openDevice
  match stack with
  | none => showStacks c (← readStacks h reset allStacks)
  | some stack =>
    let counters ← Session.within "display events"
      (Session.perform (h.counters stack 0 maxEventCounters reset))
    showStacks c [(stack, counters)]

def setupFor (a : SetupArguments) : CounterSetup where
  portMask := match a.portMask with
    | none => 0xFF
    | some mask => if mask = 0 then 0xFF else mask
  typeMask := a.kinds.foldl (· ||| ·) 0
  egress := a.egress
  threshold := a.threshold

def freeCounter (h : Handle) (stack : UInt8) : Session Nat := do
  let setups ← Session.within "evcntr_get_setup"
    (Session.perform (h.counterSetups stack 0 maxEventCounters))
  match setups.findIdx? (!·.isConfigured) with
  | some i => return i
  | none => throw (.noFreeCounter stack)

def setupCounter (c : Context) (a : SetupArguments) : Session Unit := do
  let setup := setupFor a
  if setup.isAmbiguous then
    throw .thresholdAmbiguous
  let h ← c.openDevice
  let counter ← match a.counter with
    | some counter => pure counter
    | none => freeCounter h a.stack
  Session.print (Report.counterDetails a.stack counter setup)
  Session.within "evcntr-setup" (Session.perform (h.setupCounter a.stack counter setup))

def showCounter (c : Context) (stack : UInt8) (counter : Nat) : Session Unit := do
  let h ← c.openDevice
  let setups ← Session.within "evcntr_show" (Session.perform (h.counterSetups stack counter 1))
  let setup := setups.getLast?.getD .cleared
  if c.json then
    Session.printJson setup.toJson
  else
    Session.print (Report.counterDetails stack counter setup)

def deleteCounter (c : Context) (stack : UInt8) (counter : Nat) : Session Unit := do
  let h ← c.openDevice
  Session.within "evcntr_del" (Session.perform (h.clearCounter stack counter))

def waitCounters (c : Context) (timeout : Option Nat) : Session Unit := do
  let h ← c.openDevice
  let timeout := timeout.map Nanoseconds.ofMilliseconds
  unless ← Session.within "evcntr_wait" (Session.perform (h.waitCounters timeout)) do
    throw .timeout
  counters c none false

end Context
end PcieSwitch
