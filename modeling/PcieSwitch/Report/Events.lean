import PcieSwitch.Event.Listing

/-!
This module contains the text of a list of events, under headings for partitions and ports.
-/

namespace PcieSwitch.Report

abbrev EventPlace := Option UInt32 × Option UInt32

def partitionTitle : Option UInt32 → String
  | none => "Global Events:"
  | some partition => s!"Partition {partition} Events:"

def portTitle : Option UInt32 → List String
  | none => []
  | some port => [if port = virtualEndpoint then "    Port VEP:" else s!"    Port {port}:"]

def eventHeadings (last : Option EventPlace) (r : EventRecord) : List String :=
  if last.map Prod.fst ≠ some r.partition then partitionTitle r.partition :: portTitle r.port
  else if last.map Prod.snd ≠ some r.port then portTitle r.port
  else []

def eventLine (r : EventRecord) : String :=
  "\t" ++ Text.left 22 r.event.driverName ++ "\t" ++ Text.left 4 (toString r.count) ++ "\t"
    ++ r.event.description

def eventLinesAfter (last : Option EventPlace) : List EventRecord → List String
  | [] => []
  | r :: rs => eventHeadings last r ++ eventLine r :: eventLinesAfter (some (r.partition, r.port)) rs

def eventLines (records : List EventRecord) : List String :=
  eventLinesAfter none records

end PcieSwitch.Report
