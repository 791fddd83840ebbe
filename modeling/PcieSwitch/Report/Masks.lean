import PcieSwitch.Counter.Kind
import PcieSwitch.Counter.Setup

/-!
This module contains the text of event counters: their masks, their rows in a table, and their details.
-/

namespace PcieSwitch.Report

def runs : List Nat → List (Nat × Nat)
  | [] => []
  | n :: ns =>
    match runs ns with
    | (first, last) :: rest => if first = n + 1 then (n, last) :: rest else (n, n) :: (first, last) :: rest
    | [] => [(n, n)]

def portsOf (mask : UInt8) : List Nat :=
  (List.range 8).filter fun port => mask.toNat.testBit port

def portMask (mask : UInt8) : String :=
  if mask = 0xFF then "ALL"
  else
    ",".intercalate ((runs (portsOf mask)).map fun (first, last) =>
      if first = last then toString first else s!"{first}-{last}")

def typeMask (mask : UInt32) : String :=
  ",".intercalate (CountedKind.namesOf mask)

def counterRow (index : Nat) (setup : CounterSetup) (count : UInt32) : String :=
  let kinds := typeMask setup.typeMask
  let kinds := if kinds.length > 39 then "MANY" else kinds
  "   " ++ Text.right 2 (toString index) ++ " - " ++ Text.left 11 (portMask setup.portMask)
    ++ Text.left 40 kinds ++ "   " ++ Text.right 10 (toString count)

def counterDetails (stack : UInt8) (counter : Nat) (setup : CounterSetup) : String :=
  let place := [s!"Stack:     {stack}", s!"Counter:   {counter}"]
  if !setup.isConfigured then
    Text.lines (place ++ ["Not Configured."])
  else
    let threshold := if setup.threshold ≠ 0 then [s!"Threshold: {setup.threshold}"] else []
    let counted := [
      "Ports:     " ++ portMask setup.portMask,
      "Events:    " ++ typeMask setup.typeMask
    ]
    let direction :=
      if setup.typeMask &&& CountedKind.packetsMask ≠ 0 then
        ["Direction: " ++ if setup.egress then "EGRESS" else "INGRESS"]
      else []
    Text.lines (place ++ threshold ++ counted ++ direction)

end PcieSwitch.Report
