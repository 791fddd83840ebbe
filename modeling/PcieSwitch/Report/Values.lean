import PcieSwitch.Json
import PcieSwitch.Port.Status
import PcieSwitch.Port.Binding
import PcieSwitch.Bandwidth
import PcieSwitch.Latency
import PcieSwitch.Event.Listing
import PcieSwitch.Discovery.Devices

/-!
This module contains the JSON form of what the commands report.
-/

namespace PcieSwitch

namespace Json

def word8 (n : UInt8) : Json := .nat n.toNat
def word16 (n : UInt16) : Json := .nat n.toNat
def word32 (n : UInt32) : Json := .nat n.toNat
def word64 (n : UInt64) : Json := .nat n.toNat

def optional (toJson : α → Json) : Option α → Json
  | none => .null
  | some value => toJson value

def list (toJson : α → Json) (values : List α) : Json :=
  .array (values.map toJson)

end Json

open Json

def PortId.fields (p : PortId) : List (String × Json) := [
  ("partition", word8 p.partition),
  ("stack", word8 p.stack),
  ("upstream", .bool p.facesHost),
  ("stk_id", word8 p.stackPort),
  ("phys_id", word8 p.physical),
  ("log_id", word8 p.logical)
]

def PortId.toJson (p : PortId) : Json :=
  .object p.fields

def PortStatus.fields (s : PortStatus) : List (String × Json) := [
  ("port", s.port.toJson),
  ("cfg_lnk_width", word8 s.configuredWidth),
  ("neg_lnk_width", word8 s.negotiatedWidth),
  ("link_up", .bool s.linkUp),
  ("link_rate", word8 s.linkRate),
  ("ltssm", word16 s.state.code),
  ("ltssm_str", .string (s.state.name false))
]

def BindState.toJson : BindState → Json
  | .success => .string "Success"
  | .fail => .string "Fail"
  | .inProgress => .string "InProgress"
  | .unknown code => .object [("Unknown", word8 code)]

def BindInfo.toJson (i : BindInfo) : Json := .object [
  ("phys_port_id", word8 i.physical),
  ("par_id", word8 i.partition),
  ("log_port_id", word8 i.logical),
  ("state", i.state.toJson)
]

def CounterSetup.jsonFields (s : CounterSetup) : List (String × Json) := [
  ("port_mask", word8 s.portMask),
  ("type_mask", word32 s.typeMask),
  ("egress", .bool s.egress),
  ("threshold", word32 s.threshold)
]

def CounterSetup.toJson (s : CounterSetup) : Json :=
  .object s.jsonFields

def Traffic.toJson (t : Traffic) : Json := .object [
  ("posted", word64 t.posted),
  ("comp", word64 t.completion),
  ("nonposted", word64 t.nonPosted)
]

def Bandwidth.toJson (b : Bandwidth) : Json := .object [
  ("time_us", word64 b.time),
  ("egress", b.egress.toJson),
  ("ingress", b.ingress.toJson)
]

def Latency.toJson (l : Latency) : Json := .object [
  ("cur_ns", word16 l.current),
  ("max_ns", word16 l.maximum)
]

def EventRecord.toJson (r : EventRecord) : Json := .object [
  ("partition", optional word32 r.partition),
  ("port", optional word32 r.port),
  ("event", .string r.event.name),
  ("count", word32 r.count)
]

def DeviceInfo.toJson (d : DeviceInfo) : Json := .object [
  ("name", .string d.name),
  ("path", .string d.path),
  ("pci_dev", .string d.pciDevice),
  ("product_id", .string d.productId),
  ("product_rev", .string d.productRevision),
  ("fw_version", .string d.firmwareVersion)
]

namespace Report

def statusJson (s : PortStatus) (b : Bandwidth) : Json :=
  .object (s.fields ++ [
    ("egress_bytes", word64 b.egress.total),
    ("ingress_bytes", word64 b.ingress.total)
  ])

def counterJson (stack : UInt8) (counter : Nat) (setup : CounterSetup) (count : UInt32) : Json :=
  .object ([("stack", word8 stack), ("counter", .nat counter)] ++ setup.jsonFields
    ++ [("count", word32 count)])

end Report
end PcieSwitch
