import PcieSwitch.Program
import PcieSwitch.Bytes
import PcieSwitch.Event.Summary

/-!
This module contains what an open switch can be asked: commands for its firmware, and its driver's reports
of events.
-/

namespace PcieSwitch

structure Exchange where
  command : UInt32
  payload : Bytes
  replyLength : Nat
  deriving DecidableEq, Repr

abbrev Nanoseconds := Nat

def Nanoseconds.ofMilliseconds (ms : Nat) : Nanoseconds := 1000000 * ms

inductive EventCall where
  | summary
  | control (event : Event) (index : EventIndex) (flags : UInt32)
  | wait (timeout : Option Nanoseconds)
  | portOf (function : Nat)
  | functionOf (partition port : UInt32)
  deriving DecidableEq, Repr

abbrev EventCall.Value : EventCall → Type
  | .summary => Summary
  | .control .. => UInt32
  | .wait _ => Bool
  | .portOf _ => UInt32 × UInt32
  | .functionOf .. => Nat

abbrev EventCall.Answer (c : EventCall) : Type :=
  Except Error c.Value

structure LogLine where
  message : String
  values : List (String × String)
  deriving DecidableEq, Repr

inductive DeviceCall where
  | exchange (x : Exchange)
  | event (c : EventCall)
  | now
  | log (line : LogLine)
  deriving DecidableEq, Repr

abbrev DeviceCall.Answer : DeviceCall → Type
  | .exchange _ => Except Error Bytes
  | .event c => c.Answer
  | .now => Nanoseconds
  | .log _ => Unit

abbrev deviceInterface : Interface where
  Call := DeviceCall
  Answer := DeviceCall.Answer

abbrev Operation (α : Type) := ExceptT Error (Program deviceInterface) α

end PcieSwitch
