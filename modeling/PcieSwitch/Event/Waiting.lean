import PcieSwitch.Device.Handle

/-!
This module contains the operations on single events, and the waiting for one of them.
-/

namespace PcieSwitch

namespace EventFlags

def clear : UInt32 := 0x001
def enablePoll : UInt32 := 0x002
def enableLog : UInt32 := 0x004
def enableConsole : UInt32 := 0x008
def enableFatal : UInt32 := 0x010
def disablePoll : UInt32 := 0x020
def disableLog : UInt32 := 0x040
def disableConsole : UInt32 := 0x080
def disableFatal : UInt32 := 0x100

def all : List UInt32 := [
  clear, enablePoll, enableLog, enableConsole, enableFatal, disablePoll, disableLog, disableConsole,
  disableFatal
]

end EventFlags

inductive WaitOutcome where
  | occurred (s : Summary)
  | timedOut
  | abandoned
  deriving DecidableEq, Repr

namespace Handle

def summary (h : Handle) : Operation Summary :=
  h.askEvents .summary

def controlEvent (h : Handle) (event : Event) (index : EventIndex) (flags : UInt32) : Operation UInt32 := do
  ofExcept (EventIndex.check event index)
  h.askEvents (.control event index flags)

def waitEvents (h : Handle) (timeout : Option Nanoseconds) : Operation Bool :=
  h.askEvents (.wait timeout)

def portOf (h : Handle) (function : Nat) : Operation (UInt32 × UInt32) :=
  h.askEvents (.portOf function)

def functionOf (h : Handle) (partition port : UInt32) : Operation Nat :=
  h.askEvents (.functionOf partition port)

def checkEvents (h : Handle) (marked : Summary) : Operation (Bool × Summary) := do
  let current ← h.summary
  return (marked.intersects current, current)

def now : Operation Nanoseconds :=
  Operation.ask .now

/--
Wait until an event that is marked shows, for a number of wake-ups at most. Each wait lasts what is left of
the timeout. The time is looked at after a wait, so even no time at all allows for one.
-/
def waitMarked (h : Handle) (marked : Summary) (timeout : Option Nanoseconds) (start : Nanoseconds)
    (rounds : Nat) : Operation WaitOutcome := do
  match rounds with
  | 0 => return .abandoned
  | rounds + 1 =>
    let remaining ← left
    if ← h.waitEvents remaining then
      let (shows, current) ← h.checkEvents marked
      if shows then
        return .occurred current
    if ← expired then
      return .timedOut
    h.waitMarked marked timeout start rounds
where
  left : Operation (Option Nanoseconds) := do
    match timeout with
    | none => return none
    | some t => return some (t - ((← now) - start))
  expired : Operation Bool := do
    match timeout with
    | none => return false
    | some t => return t ≤ (← now) - start

def waitFor (h : Handle) (event : Event) (index : EventIndex) (timeout : Option Nanoseconds)
    : Operation (Option Summary) := do
  let marked ← ofExcept (Summary.empty.set event index)
  let _ ← h.controlEvent event index (EventFlags.clear ||| EventFlags.enablePoll)
  h.log "waiting for event" [("event", event.driverName), ("index", toString index.code)]
  let start ← now
  match ← h.waitMarked marked timeout start h.wakeups with
  | .occurred s => return some s
  | .timedOut => return none
  | .abandoned => throw (.waitAbandoned h.wakeups)

def waitCounters (h : Handle) (timeout : Option Nanoseconds) : Operation Bool := do
  return (← h.waitFor .counterThreshold .all timeout).isSome

end Handle
end PcieSwitch
