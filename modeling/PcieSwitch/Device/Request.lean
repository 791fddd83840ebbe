import PcieSwitch.Command
import PcieSwitch.Generation
import PcieSwitch.Limits
import PcieSwitch.Subcommand
import PcieSwitch.Counter.Setup

/-!
This module contains the requests that an operation can send to the firmware, and the layout of each one:
its command, its payload and the length of its reply.
-/

namespace PcieSwitch

inductive BandwidthKind where
  | raw
  | payload
  deriving DecidableEq, Repr

def BandwidthKind.number : BandwidthKind → UInt8
  | .raw => 0
  | .payload => 1

inductive Request where
  | echo (word : UInt32)
  | reset
  | measureTemperature
  | readTemperature
  | linkStatus
  | bindInfo (physical : UInt8)
  | bind (partition logical physical : UInt8)
  | unbind (partition logical : UInt8)
  | injectDllp (port : UInt8) (data : UInt32)
  | injectDllpCrc (port : UInt8) (enable : Bool) (rate : UInt16)
  | injectTlpLcrc (port : UInt8) (enable : Bool) (rate : UInt8)
  | injectTlpSequence (port : UInt8)
  | injectNack (port : UInt8) (sequence : UInt16) (count : UInt8)
  | injectCreditTimeout (port : UInt8)
  | setupCounter (stack counter : UInt8) (setup : CounterSetup)
  | counterSetups (stack counter count : UInt8)
  | counterValues (stack counter count : UInt8) (clear : Bool)
  | bandwidth (ports : List UInt8) (clear : Bool)
  | selectBandwidth (ports : List UInt8) (kind : BandwidthKind)
  | setupLatency (pairs : List (UInt8 × UInt8))
  | latency (ports : List UInt8) (clear : Bool)
  | readWindow (offset length : UInt32)
  | writeWindow (offset : UInt32) (data : Bytes)
  deriving DecidableEq, Repr

namespace Request

/-- The size of the table of setups that a setup request carries. Only its first slot is used. -/
def setupSlots : Nat := 63

def bandwidthEntrySize : Nat := 56
def latencyEntrySize : Nat := 4
def counterEntrySize : Nat := 8
def linkStatusEntrySize : Nat := 12
def bindEntrySize : Nat := 4

def command : Request → Command
  | .echo _ => .echo
  | .reset => .reset
  | .measureTemperature | .readTemperature => .dieTemperature
  | .linkStatus => .linkStatus
  | .bindInfo _ | .bind .. | .unbind .. => .portPartition
  | .injectDllp .. | .injectDllpCrc .. | .injectTlpLcrc .. | .injectTlpSequence _
  | .injectNack .. | .injectCreditTimeout _ => .errorInjection
  | .setupCounter .. | .counterSetups .. | .counterValues .. | .bandwidth .. | .selectBandwidth ..
  | .setupLatency _ | .latency .. => .performanceMonitor
  | .readWindow .. => .gasRead
  | .writeWindow .. => .gasWrite

def count (entries : List α) : Field :=
  .u8 (UInt8.ofNat entries.length)

def monitor (subcommand : MonitorSubcommand) : Field :=
  .u8 subcommand.number

def binding (subcommand : BindingSubcommand) : Field :=
  .u8 subcommand.number

def temperature (subcommand : TemperatureSubcommand) : Field :=
  .u32 subcommand.number

def injection (subcommand : InjectionSubcommand) : Field :=
  .u8 subcommand.number

def fields (generation : Generation) : Request → List Field
  | .echo word => [.u32 word]
  | .reset => [.u32 0]
  | .measureTemperature => [temperature .measure]
  | .readTemperature => [temperature .read]
  | .linkStatus => [.u64 0]
  | .bindInfo physical => [binding .info, .u8 physical, .zeros 2]
  | .bind partition logical physical => [binding .bind, .u8 partition, .u8 logical, .u8 physical]
  | .unbind partition logical => [binding .unbind, .u8 partition, .u8 logical, .u8 2]
  | .injectDllp port data => [injection .dllp, .u8 port, .zeros 2, .u32 data]
  | .injectDllpCrc port enable rate =>
    [injection .dllpCrc, .u8 port, .flag enable, .zeros 1, .u16 rate, .zeros 2]
  | .injectTlpLcrc port enable rate =>
    [injection .tlpLcrc, .u8 port, .flag enable] ++
      match generation with
      | .gen5 => [.zeros 1, .u8 rate, .zeros 3]
      | _ => [.u8 rate]
  | .injectTlpSequence port => [injection .tlpSequence, .u8 port, .zeros 2]
  | .injectNack port sequence count =>
    [injection .nack, .u8 port, .zeros 2, .u16 sequence, .u8 count, .zeros 1]
  | .injectCreditTimeout port => [injection .creditTimeout, .u8 port, .zeros 2]
  | .setupCounter stack counter setup =>
    [monitor .setupCounter, .u8 stack, .u8 counter, .u8 1] ++ setup.fields
      ++ [.zeros ((setupSlots - 1) * CounterSetup.wireSize)]
  | .counterSetups stack counter count =>
    [monitor .counterSetups, .u8 stack, .u8 counter, .u8 count, .flag false]
  | .counterValues stack counter count clear =>
    [monitor .counterValues, .u8 stack, .u8 counter, .u8 count, .flag clear]
  | .bandwidth ports clear => [monitor .bandwidth, count ports] ++ ports.flatMap fun port => [.u8 port, .flag clear]
  | .selectBandwidth ports kind =>
    [monitor .selectBandwidth, count ports] ++ ports.flatMap fun port => [.u8 port, .u8 kind.number]
  | .setupLatency pairs =>
    [monitor .setupLatency, count pairs] ++ pairs.flatMap fun (egress, ingress) => [.u8 egress, .u8 ingress]
  | .latency ports clear => [monitor .latency, count ports, .flag clear, .bytes ports]
  | .readWindow offset length => [.u32 offset, .u32 length]
  | .writeWindow offset data => [.u32 offset, .u32 (UInt32.ofNat data.length), .bytes data]

def payload (generation : Generation) (r : Request) : Bytes :=
  .ofFields (r.fields generation)

def replyLength : Request → Nat
  | .echo _ | .readTemperature => 4
  | .reset | .measureTemperature => 0
  | .linkStatus => maxPorts * linkStatusEntrySize
  | .bindInfo _ => 4 + maxPhysicalPorts * bindEntrySize
  | .bind .. | .unbind .. => 4
  | .injectDllp .. | .injectDllpCrc .. | .injectTlpLcrc .. | .injectTlpSequence _
  | .injectNack .. | .injectCreditTimeout _ => 4
  | .setupCounter .. | .selectBandwidth .. | .setupLatency _ | .writeWindow .. => 0
  | .counterSetups _ _ count => count.toNat * CounterSetup.wireSize
  | .counterValues _ _ count _ => count.toNat * counterEntrySize
  | .bandwidth ports _ => ports.length * bandwidthEntrySize
  | .latency ports _ => ports.length * latencyEntrySize
  | .readWindow _ length => length.toNat

end Request
end PcieSwitch
