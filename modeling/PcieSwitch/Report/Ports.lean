import PcieSwitch.Port.Status
import PcieSwitch.Port.Binding
import PcieSwitch.Bandwidth
import PcieSwitch.Latency
import PcieSwitch.Decimal.Quantity

/-!
This module contains the text of ports: their headings, their status, their traffic and their bindings.
-/

namespace PcieSwitch.Report

structure PortTitles where
  localPartition : UInt8
  last : Option UInt8
  deriving DecidableEq, Repr

namespace PortTitles

def start (localPartition : UInt8) : PortTitles :=
  ⟨localPartition, none⟩

def partitionHeading (t : PortTitles) (partition : UInt8) : String :=
  if partition = unbound then "Unbound Ports:\n"
  else s!"Partition {partition}:" ++ (if partition = t.localPartition then "    (LOCAL)" else "") ++ "\n"

def portLine (p : PortId) : String :=
  if p.partition = unbound then
    s!"    Phys Port ID {p.physical}  (Stack {p.stack}, Port {p.stackPort})"
  else
    s!"    Logical Port ID {p.logical} (" ++ (if p.facesHost then "USP" else "DSP") ++ "):"

def title (t : PortTitles) (p : PortId) : PortTitles × String :=
  let heading := if t.last = some p.partition then "" else t.partitionHeading p.partition
  ({ t with last := some p.partition }, heading ++ portLine p)

def titles (t : PortTitles) : List PortId → List String
  | [] => []
  | p :: ps =>
    let (t, first) := t.title p
    first :: t.titles ps

end PortTitles

/--
A port's status under its title, with its traffic. A port in no partition has a title alone, and one whose
link is down shows neither rate nor traffic.
-/
def portStatus (title : String) (s : PortStatus) (b : Bandwidth) : List String :=
  [title] ++ (if s.port.partition = unbound then [] else place ++ if s.linkUp then link else [])
where
  place : List String := [
    s!"\tPhys Port ID:    \t{s.port.physical} (Stack {s.port.stack}, Port {s.port.stackPort})",
    "\tStatus:          \t" ++ (if s.linkUp then "UP" else "DOWN"),
    "\tLTSSM:           \t" ++ s.state.name false,
    s!"\tMax-Width:       \tx{s.configuredWidth}"
  ]
  rate : List String :=
    match s.transferRate?, s.dataRate? with
    | some transfer, some data => [
        s!"\tRate:            \tGen{s.linkRate} - " ++ Decimal.threeDigits transfer.toFloat ++ " GT/s  "
          ++ Decimal.threeDigits (data.toFloat / 1000.0) ++ " GB/s"
      ]
    | _, _ => []
  link : List String :=
    [s!"\tNeg Width:       \tx{s.negotiatedWidth}"] ++ rate ++ [
      "\tOut Bytes:       \t" ++ Decimal.byteCount b.egress.total,
      "\tIn Bytes:        \t" ++ Decimal.byteCount b.ingress.total
    ]

def statusLines (localPartition : UInt8) (ports : List (PortStatus × Bandwidth)) : List String :=
  let titles := (PortTitles.start localPartition).titles (ports.map fun (s, _) => s.port)
  (titles.zip ports).flatMap fun (title, s, b) => portStatus title s b

def rateLine (name : String) (bytes time : UInt64) : String :=
  "\t" ++ Text.left 8 name ++ "\t" ++ Decimal.byteRate bytes time

def directionLines (name : String) (t : Traffic) (time : UInt64) : List String := [
  "\t" ++ name,
  rateLine "  Posted:" t.posted time,
  rateLine "  Non-Posted:" t.nonPosted time,
  rateLine "  Completion:" t.completion time,
  rateLine "  Total:" t.total time
]

def bandwidthLines (localPartition : UInt8) (verbose : Bool) (ports : List (PortId × Bandwidth))
    : List String :=
  let titles := (PortTitles.start localPartition).titles (ports.map Prod.fst)
  (titles.zip ports).flatMap fun (title, _, b) =>
    title ::
      if verbose then
        directionLines "Out:" b.egress b.time ++ directionLines "In:" b.ingress b.time
      else
        [rateLine "Out:" b.egress.total b.time, rateLine "In:" b.ingress.total b.time]

def latencyLines (l : Latency) : List String := [
  s!"Current: {l.current} ns",
  s!"Maximum: {l.maximum} ns"
]

def bindLines (physical : UInt8) (infos : List BindInfo) : List String :=
  s!"physical port: {physical}" :: infos.flatMap fun i => [
    "bind state: " ++ i.state.text,
    s!"physical port {i.physical} bound to {i.logical}, partition {i.partition}"
  ]

end PcieSwitch.Report
