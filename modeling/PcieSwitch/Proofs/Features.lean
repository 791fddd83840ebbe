import PcieSwitch.Bandwidth
import PcieSwitch.Counter.Operations
import PcieSwitch.Latency
import PcieSwitch.Port.Binding
import PcieSwitch.Port.Injection
import PcieSwitch.Register.Tunnelled
import PcieSwitch.Proofs.Refusals

/-!
This module contains the operations that work through the firmware's commands, as data: what each is asked
with, what it refuses, and what it sends first. Statements about all operations are statements about this type.
-/

namespace PcieSwitch

inductive Feature : Type → Type where
  | echo (word : UInt32) : Feature UInt32
  | hardReset : Feature Unit
  | dieTemperature : Feature Float32
  | status : Feature (List PortStatus)
  | bindInfo (physical : UInt8) : Feature (List BindInfo)
  | bind (partition logical physical : UInt8) : Feature Unit
  | unbind (partition logical : UInt8) : Feature Unit
  | injectDllp (port : UInt8) (data : UInt32) : Feature UInt32
  | injectDllpCrc (port : UInt8) (enable : Bool) (rate : UInt16) : Feature UInt32
  | injectTlpLcrc (port : UInt8) (enable : Bool) (rate : UInt8) : Feature UInt32
  | injectTlpSequence (port : UInt8) : Feature UInt32
  | injectNack (port : UInt8) (sequence : UInt16) (count : UInt8) : Feature UInt32
  | injectCreditTimeout (port : UInt8) : Feature UInt32
  | setupCounter (stack : UInt8) (counter : Nat) (setup : CounterSetup) : Feature Unit
  | clearCounter (stack : UInt8) (counter : Nat) : Feature Unit
  | counterSetups (stack : UInt8) (counter count : Nat) : Feature (List CounterSetup)
  | counterValues (stack : UInt8) (counter count : Nat) (clear : Bool) : Feature (List UInt32)
  | counters (stack : UInt8) (counter count : Nat) (clear : Bool) : Feature (List (CounterSetup × UInt32))
  | bandwidth (ports : List UInt8) (clear : Bool) : Feature (List Bandwidth)
  | bandwidthOfAll (clear : Bool) : Feature (List (PortId × Bandwidth))
  | selectBandwidth (ports : List UInt8) (kind : BandwidthKind) : Feature Unit
  | selectBandwidthOfAll (kind : BandwidthKind) : Feature Unit
  | setupLatencies (pairs : List (UInt8 × UInt8)) : Feature Unit
  | setupLatency (egress ingress : UInt8) (clear : Bool) : Feature Unit
  | latencies (ports : List UInt8) (clear : Bool) : Feature (List Latency)
  | latency (egress : UInt8) (clear : Bool) : Feature Latency
  | readRegister (address bytes : Nat) : Feature (Nat × UInt64)
  | writeRegister (address bytes : Nat) (value : UInt64) : Feature Nat
  | readSpan (address length : Nat) : Feature Bytes

def Handle.perform (h : Handle) : Feature α → Operation α
  | .echo word => h.echo word
  | .hardReset => h.hardReset
  | .dieTemperature => h.dieTemperature
  | .status => h.status
  | .bindInfo physical => h.bindInfo physical
  | .bind partition logical physical => h.bind partition logical physical
  | .unbind partition logical => h.unbind partition logical
  | .injectDllp port data => h.injectDllp port data
  | .injectDllpCrc port enable rate => h.injectDllpCrc port enable rate
  | .injectTlpLcrc port enable rate => h.injectTlpLcrc port enable rate
  | .injectTlpSequence port => h.injectTlpSequence port
  | .injectNack port sequence count => h.injectNack port sequence count
  | .injectCreditTimeout port => h.injectCreditTimeout port
  | .setupCounter stack counter setup => h.setupCounter stack counter setup
  | .clearCounter stack counter => h.clearCounter stack counter
  | .counterSetups stack counter count => h.counterSetups stack counter count
  | .counterValues stack counter count clear => h.counterValues stack counter count clear
  | .counters stack counter count clear => h.counters stack counter count clear
  | .bandwidth ports clear => h.bandwidth ports clear
  | .bandwidthOfAll clear => h.bandwidthOfAll clear
  | .selectBandwidth ports kind => h.selectBandwidth ports kind
  | .selectBandwidthOfAll kind => h.selectBandwidthOfAll kind
  | .setupLatencies pairs => h.setupLatencies pairs
  | .setupLatency egress ingress clear => h.setupLatency egress ingress clear
  | .latencies ports clear => h.latencies ports clear
  | .latency egress clear => h.latency egress clear
  | .readRegister address bytes => h.window.readRegister address bytes
  | .writeRegister address bytes value => h.window.writeRegister address bytes value
  | .readSpan address length => h.window.readSpan address length

namespace Feature

def refusal? (generation : Generation) : Feature α → Option Error
  | .echo _ | .hardReset | .dieTemperature | .status | .bandwidthOfAll _ | .selectBandwidthOfAll _ => none
  | .bindInfo physical => refusePort physical
  | .bind partition _ physical => (refusePartition partition).or (refusePort physical)
  | .unbind partition _ => refusePartition partition
  | .injectDllp port _ | .injectTlpSequence port => refusePort port
  | .injectDllpCrc port _ rate => (refuseValue "DLLP CRC rate" rate.toNat 4096).or (refusePort port)
  | .injectTlpLcrc port _ rate => (refuseValue "TLP LCRC rate" rate.toNat 7).or (refusePort port)
  | .injectNack port sequence _ => (refuseValue "sequence number" sequence.toNat 4095).or (refusePort port)
  | .injectCreditTimeout port =>
    if generation = .gen5 then refusePort port else some (.unsupported "credit timeout injection")
  | .setupCounter stack counter _ | .clearCounter stack counter => refuseCounters stack counter 0
  | .counterSetups stack counter count | .counterValues stack counter count _
  | .counters stack counter count _ => refuseCounters stack counter count
  | .bandwidth ports _ | .selectBandwidth ports _ | .latencies ports _ => refusePorts ports
  | .setupLatencies pairs => refusePorts (pairs.flatMap portsOfPair)
  | .setupLatency egress ingress _ => refusePorts (portsOfPair (egress, ingress))
  | .latency egress _ => refusePort egress
  | .readRegister address bytes => refuseRegister address bytes
  | .writeRegister address bytes value =>
    (refuseRegister address bytes).or (refuseValue "register value" value.toNat (256 ^ bytes - 1))
  | .readSpan address length => refuseSpan address length

def firstRequest? : Feature α → Option Request
  | .echo word => some (.echo word)
  | .hardReset => some .reset
  | .dieTemperature => some .measureTemperature
  | .status | .bandwidthOfAll _ | .selectBandwidthOfAll _ => some .linkStatus
  | .bindInfo physical => some (.bindInfo physical)
  | .bind partition logical physical => some (.bind partition logical physical)
  | .unbind partition logical => some (.unbind partition logical)
  | .injectDllp port data => some (.injectDllp port data)
  | .injectDllpCrc port enable rate => some (.injectDllpCrc port enable rate)
  | .injectTlpLcrc port enable rate => some (.injectTlpLcrc port enable rate)
  | .injectTlpSequence port => some (.injectTlpSequence port)
  | .injectNack port sequence count => some (.injectNack port sequence count)
  | .injectCreditTimeout port => some (.injectCreditTimeout port)
  | .setupCounter stack counter setup => some (.setupCounter stack (UInt8.ofNat counter) setup)
  | .clearCounter stack counter => some (.setupCounter stack (UInt8.ofNat counter) .cleared)
  | .counterSetups stack counter count | .counters stack counter count _ =>
    some (.counterSetups stack (UInt8.ofNat counter) (UInt8.ofNat count))
  | .counterValues stack counter count clear =>
    some (.counterValues stack (UInt8.ofNat counter) (UInt8.ofNat count) clear)
  | .bandwidth ports clear =>
    if ports = [] then none else some (.bandwidth (ports.take Bandwidth.portsPerQuery) clear)
  | .selectBandwidth ports kind =>
    if ports = [] then none else some (.selectBandwidth (ports.take maxPorts) kind)
  | .setupLatencies pairs => if pairs = [] then none else some (.setupLatency (pairs.take maxPorts))
  | .setupLatency egress ingress _ => some (.setupLatency [(egress, ingress)])
  | .latencies ports clear => if ports = [] then none else some (.latency (ports.take maxPorts) clear)
  | .latency egress clear => some (.latency [egress] clear)
  | .readRegister address bytes =>
    some (.readWindow (UInt32.ofNat (address - address % bytes)) (UInt32.ofNat bytes))
  | .writeRegister address bytes value =>
    some (.writeWindow (UInt32.ofNat (address - address % bytes)) (.ofNat bytes value.toNat))
  | .readSpan address length =>
    if length = 0 then none
    else some (.readWindow (UInt32.ofNat address) (UInt32.ofNat (min maxDataLength length)))

/--
An error that an operation raises after its first request. Only what works on all ports does so, if the switch
lists a port that is out of range.
-/
def RaisesLater : Feature α → Error → Prop
  | .bandwidthOfAll _, e | .selectBandwidthOfAll _, e => ∃ port, maxPorts ≤ port ∧ e = .portOutOfRange port
  | _, _ => False

end Feature

end PcieSwitch
