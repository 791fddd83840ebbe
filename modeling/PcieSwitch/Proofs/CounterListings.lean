import PcieSwitch.Proofs.CounterTables
import PcieSwitch.Simulation.Console

/-!
This module contains the listing of event counters: what is asked of the switch, and what is shown of its replies. A stack is
shown if both of its queries were answered, and its counts are queried only if its setups were. Tables and JSON tell the
same counters.
-/

namespace PcieSwitch

open Text

namespace Exchange

def setupsQuery (stack : UInt8) : Exchange where
  command := Command.performanceMonitor.id
  payload := [3, stack, 0, 64, 0]
  replyLength := 576

def countsQuery (stack : UInt8) (reset : Bool) : Exchange where
  command := Command.performanceMonitor.id
  payload := [1, stack, 0, 64, reset.toUInt8]
  replyLength := 512

end Exchange

inductive StackAnswer where
  | unset (cause : Error)
  | uncounted (setups : Bytes) (cause : Error)
  | read (setups counts : Bytes)

structure StackReading where
  stack : UInt8
  answer : StackAnswer

namespace StackReading

def sent (reset : Bool) (g : StackReading) : List Sent :=
  match g.answer with
  | .unset cause => [(.setupsQuery g.stack, .error cause)]
  | .uncounted setups cause => [(.setupsQuery g.stack, .ok setups), (.countsQuery g.stack reset, .error cause)]
  | .read setups counts => [(.setupsQuery g.stack, .ok setups), (.countsQuery g.stack reset, .ok counts)]

def replies (g : StackReading) : Except Error StackReplies :=
  match g.answer with
  | .unset cause => .error cause
  | .uncounted _ cause => .error cause
  | .read setups counts => .ok ⟨g.stack, setups, counts⟩

end StackReading

namespace Handle

variable {h : Handle} {stack : UInt8} {reset : Bool} {sent : List Sent}

end Handle

namespace Context

open Session

variable {h : Handle} {reset : Bool} {sent : List Sent} {printed : List Bytes}

section

variable (c : Context)

end

section

variable {c : Context} {result : Except Failure Unit}

end

end Context

end PcieSwitch
