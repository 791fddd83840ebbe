import PcieSwitch.CommandLine.Action.Counters
import PcieSwitch.Proofs.KindNames
import PcieSwitch.Proofs.TextOutlines

/-!
This module contains the counters of a stack as they are shown: as rows under the stack's title, or as JSON objects. Both
tell the same of a counter, namely its stack, its number and its count.
-/

namespace PcieSwitch

open Text

abbrev CounterCount := Nat × Nat × Nat

def noCountersLine : String := "  No event counters enabled."

def Json.number? (key : String) : Json → Option Nat
  | .object fields =>
    match fields.lookup key with
    | some (.nat n) => some n
    | _ => none
  | _ => none

namespace Report

section

variable (counter : Nat) (setup : CounterSetup) (count : UInt32)

def blanks (width n : Nat) : String :=
  String.ofList (List.replicate (width - n.repr.length) ' ')

end

end Report
end PcieSwitch
