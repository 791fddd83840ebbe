import PcieSwitch.Proofs.ChainStarts
import PcieSwitch.Proofs.CounterPages
import PcieSwitch.Proofs.FeatureRefusals
import PcieSwitch.Proofs.RegisterWindows

/-!
This module contains the proof that every operation on the firmware is a chain of commands, once its arguments
are not refused.
-/

namespace PcieSwitch
namespace Handle

open Operation

variable {h : Handle} {Raises : Error → Prop}

theorem inject_of_accepted {port : UInt8} (hport : refusePort port = none) (r : Request)
    : h.inject port r = h.requestWord r := by
  exact ofExcept_accepted_bind (checkPhysicalPort_eq port) hport

theorem inject_value_of_accepted {what : String} {value max : Nat} {port : UInt8}
    (haccepted : (refuseValue what value max).or (refusePort port) = none) (r : Request)
    : (ofExcept (Injection.checkValue what value max) >>= fun _ => h.inject port r) = h.requestWord r := by
  obtain ⟨hvalue, hport⟩ := Option.or_eq_none_iff.mp haccepted
  rw [ofExcept_accepted_bind (checkValue_eq what value max) hvalue, inject_of_accepted hport]

theorem queryCounters_of_accepted {stack : UInt8} {counter count width : Nat}
    (hcounters : refuseCounters stack counter count = none) {r : Request} (hfits : r.Fits h.generation)
    (hreply : r.replyLength = count * width)
    : h.queryCounters stack counter count width r = h.request r := by
  unfold queryCounters
  rw [ofExcept_accepted_bind (checkCounters_eq stack counter count) hcounters]
  rw [← hreply, if_neg (Nat.not_lt.mpr hfits.2)]

theorem toNat_count_of_accepted {stack : UInt8} {counter count : Nat}
    (hcounters : refuseCounters stack counter count = none) : (UInt8.ofNat count).toNat = count := by
  have hcount := count_le_of_accepted hcounters
  unfold maxEventCounters at hcount
  rw [UInt8.toNat_ofNat']
  omega

theorem fits_of_counters {stack : UInt8} {counter count width : Nat}
    (hcounters : refuseCounters stack counter count = none) (hwidth : width ≤ 16) (r : Request)
    (hpayload : ((r.fields h.generation).map Field.width).sum ≤ maxDataLength)
    (hreply : r.replyLength = (UInt8.ofNat count).toNat * width)
    : r.Fits h.generation ∧ r.replyLength = count * width := by
  have hmax : count * width ≤ 64 * 16 := Nat.mul_le_mul (count_le_of_accepted hcounters) hwidth
  rw [toNat_count_of_accepted hcounters] at hreply
  refine ⟨Request.fits_of_width hpayload ?_, hreply⟩
  rw [hreply]
  exact hmax

theorem counterSetups_of_accepted {stack : UInt8} {counter count : Nat}
    (hcounters : refuseCounters stack counter count = none)
    : let r := Request.counterSetups stack (UInt8.ofNat counter) (UInt8.ofNat count)
      r.Fits h.generation
        ∧
      h.counterSetups stack counter count = (h.request r >>= fun reply => pure (CounterSetup.ofReply count reply))
    := by
  intro r
  have hwidth : CounterSetup.wireSize ≤ 16 := by decide
  obtain ⟨hfits, hreply⟩ := fits_of_counters hcounters hwidth r (Nat.le_of_ble_eq_true rfl) rfl
  refine ⟨hfits, ?_⟩
  unfold counterSetups
  rw [queryCounters_of_accepted hcounters hfits hreply]

theorem counterValues_of_accepted {stack : UInt8} {counter count : Nat} {clear : Bool}
    (hcounters : refuseCounters stack counter count = none)
    : let r := Request.counterValues stack (UInt8.ofNat counter) (UInt8.ofNat count) clear
      r.Fits h.generation
        ∧
      h.counterValues stack counter count clear
        = (h.request r >>= fun reply => pure (counterValuesOfReply count reply)) := by
  intro r
  have hwidth : Request.counterEntrySize ≤ 16 := by decide
  obtain ⟨hfits, hreply⟩ := fits_of_counters hcounters hwidth r (Nat.le_of_ble_eq_true rfl) rfl
  refine ⟨hfits, ?_⟩
  unfold counterValues
  rw [queryCounters_of_accepted hcounters hfits hreply]

theorem chainedFrom_counterSetups {stack : UInt8} {counter count : Nat}
    (hcounters : refuseCounters stack counter count = none)
    : ChainedFrom Raises h (some (.counterSetups stack (UInt8.ofNat counter) (UInt8.ofNat count)))
        (h.counterSetups stack counter count) := by
  obtain ⟨hfits, heq⟩ := counterSetups_of_accepted hcounters
  rw [heq]
  apply ChainedFrom.map
  apply ChainedFrom.of_fits hfits

theorem chainedFrom_counterValues {stack : UInt8} {counter count : Nat} {clear : Bool}
    (hcounters : refuseCounters stack counter count = none)
    : ChainedFrom Raises h (some (.counterValues stack (UInt8.ofNat counter) (UInt8.ofNat count) clear))
        (h.counterValues stack counter count clear) := by
  obtain ⟨hfits, heq⟩ := counterValues_of_accepted hcounters
  rw [heq]
  apply ChainedFrom.map
  apply ChainedFrom.of_fits hfits

theorem chainedFrom_counters {stack : UInt8} {counter count : Nat} {clear : Bool}
    (hcounters : refuseCounters stack counter count = none)
    : ChainedFrom Raises h (some (.counterSetups stack (UInt8.ofNat counter) (UInt8.ofNat count)))
        (h.counters stack counter count clear) := by
  unfold counters
  apply (chainedFrom_counterSetups hcounters).bind
  intro setups
  apply (chainedFrom_counterValues hcounters).chained.bind
  intro values
  apply Chained.done

theorem chainedFrom_setupCounter {stack : UInt8} {counter : Nat} {setup : CounterSetup}
    (hcounters : refuseCounters stack counter 0 = none)
    : ChainedFrom Raises h (some (.setupCounter stack (UInt8.ofNat counter) setup))
        (h.setupCounter stack counter setup) := by
  unfold setupCounter
  rw [ofExcept_accepted_bind (checkCounters_eq stack counter 0) hcounters]
  apply ChainedFrom.order (Request.fits_of_isFixed rfl)

theorem chainedFrom_status : ChainedFrom Raises h (some .linkStatus) h.status := by
  unfold status
  apply ChainedFrom.map
  apply ChainedFrom.of_fits (Request.fits_of_isFixed rfl)

theorem chainedFrom_bandwidth {ports : List UInt8} {clear : Bool} (hports : refusePorts ports = none)
    : ChainedFrom Raises h
        (if ports = [] then none else some (.bandwidth (ports.take Bandwidth.portsPerQuery) clear))
        (h.bandwidth ports clear) := by
  unfold bandwidth
  rw [ofExcept_accepted_bind (checkPorts_eq ports) hports]
  apply ChainedFrom.paged PageFormat.lawful_bandwidth (fun _ => rfl)
    (fun page => Request.exchange_bandwidth page clear)
  intro page hfits
  apply (ChainedFrom.of_fits hfits).map

theorem chainedFrom_selectBandwidth {ports : List UInt8} {kind : BandwidthKind}
    (hports : refusePorts ports = none)
    : ChainedFrom Raises h (if ports = [] then none else some (.selectBandwidth (ports.take maxPorts) kind))
        (h.selectBandwidth ports kind) := by
  unfold selectBandwidth
  rw [ofExcept_accepted_bind (checkPorts_eq ports) hports]
  apply ChainedFrom.pagedOrders PageFormat.lawful_bandwidthKind (fun _ => rfl)
    (fun page => Request.exchange_selectBandwidth page kind)

theorem chainedFrom_setupLatencies {pairs : List (UInt8 × UInt8)}
    (hpairs : refusePorts (pairs.flatMap portsOfPair) = none)
    : ChainedFrom Raises h (if pairs = [] then none else some (.setupLatency (pairs.take maxPorts)))
        (h.setupLatencies pairs) := by
  unfold setupLatencies
  rw [ofExcept_accepted_bind (checkPairs_eq pairs) hpairs]
  apply ChainedFrom.pagedOrders PageFormat.lawful_latencyPairs (fun _ => rfl)
    (fun page => Request.exchange_setupLatency page)

theorem chainedFrom_latencies {ports : List UInt8} {clear : Bool} (hports : refusePorts ports = none)
    : ChainedFrom Raises h (if ports = [] then none else some (.latency (ports.take maxPorts) clear))
        (h.latencies ports clear) := by
  unfold latencies
  rw [ofExcept_accepted_bind (checkPorts_eq ports) hports]
  apply ChainedFrom.paged (PageFormat.lawful_latency clear) (fun _ => rfl)
    (fun page => Request.exchange_latency page clear)
  intro page hfits
  apply (ChainedFrom.of_fits hfits).map

theorem chainedFrom_latency {egress : UInt8} {clear : Bool} (hegress : refusePort egress = none)
    : ChainedFrom Raises h (some (.latency [egress] clear)) (h.latency egress clear) := by
  rw [← refusePorts_singleton] at hegress
  unfold latency
  apply ChainedFrom.map
  exact chainedFrom_latencies hegress

theorem chainedFrom_setupLatency {egress ingress : UInt8} {clear : Bool}
    (hpair : refusePorts (portsOfPair (egress, ingress)) = none)
    : ChainedFrom Raises h (some (.setupLatency [(egress, ingress)])) (h.setupLatency egress ingress clear) := by
  have hegress := refusePort_of_portsOfPair hpair
  have hsetup : ChainedFrom Raises h (some (.setupLatency [(egress, ingress)]))
      (h.setupLatencies [(egress, ingress)]) := by
    rw [← List.flatMap_singleton portsOfPair] at hpair
    exact chainedFrom_setupLatencies hpair
  unfold setupLatency
  apply hsetup.bind
  intro _
  split
  . apply (chainedFrom_latency hegress).chained.bind
    intro _
    apply Chained.done
  . apply Chained.done

theorem chainedFrom_readBytes (h : Handle) (offset : Nat) {length : Nat} (hpos : 0 < length)
    : ChainedFrom Raises h
        (some (.readWindow (UInt32.ofNat offset) (UInt32.ofNat (min maxDataLength length))))
        (Tunnelled.readBytes h offset length) := by
  have hfits : ∀ offset length, Request.Fits h.generation
      (.readWindow (UInt32.ofNat offset) (UInt32.ofNat (min maxDataLength length))) := by
    intro offset length
    apply Request.fits_readWindow
    omega
  unfold Tunnelled.readBytes
  fun_induction spans maxDataLength offset length with
  | case1 => contradiction
  | case2 => contradiction
  | case3 offset length hsome hsize ih =>
    rw [Tunnelled.readBytes.go]
    apply (ChainedFrom.of_fits (hfits offset length)).bind
    intro data
    by_cases hrest : 0 < length - min maxDataLength length
    . apply (ih hrest).chained.bind
      intro others
      apply Chained.done
    . rw [Nat.eq_zero_of_not_pos hrest, spans_zero]
      apply Chained.bind (Chained.done [])
      intro others
      apply Chained.done

theorem chainedFrom_writeBytes (h : Handle) (offset : Nat) {data : Bytes} (hne : data ≠ [])
    (hpiece : data.length ≤ Tunnelled.maxWrite)
    : ChainedFrom Raises h (some (.writeWindow (UInt32.ofNat offset) data))
        (Tunnelled.writeBytes h offset data) := by
  unfold Tunnelled.writeBytes Tunnelled.placed
  rw [pages_of_length_le (by decide) hne hpiece, Tunnelled.placed.go, Tunnelled.writeBytes.go]
  apply ChainedFrom.bind
  . apply ChainedFrom.order
    exact Request.fits_writeWindow h.generation offset (Tunnelled.add_le_of_le_maxWrite hpiece)
  . intro _
    apply Chained.done

theorem chainedFrom_readRegister {address bytes : Nat} (haccepted : refuseRegister address bytes = none)
    : ChainedFrom Raises h
        (some (.readWindow (UInt32.ofNat (address - address % bytes)) (UInt32.ofNat bytes)))
        (h.window.readRegister address bytes) := by
  obtain ⟨width, rfl, hlocate⟩ := Window.locate_of_accepted haccepted
  have hread : ChainedFrom Raises h
      (some (.readWindow (UInt32.ofNat (address - address % width.bytes))
        (UInt32.ofNat (min maxDataLength width.bytes))))
      (Tunnelled.readBytes h (address - address % width.bytes) width.bytes) := by
    apply chainedFrom_readBytes
    exact width.bytes_pos
  have hmin : min maxDataLength width.bytes = width.bytes := by cases width <;> rfl
  rw [hmin] at hread
  unfold Window.readRegister
  rw [window_size, ofExcept_ok_bind hlocate]
  apply ChainedFrom.map
  apply hread.map

theorem chainedFrom_writeRegister {address bytes : Nat} {value : UInt64}
    (haccepted : refuseRegister address bytes = none)
    (hvalue : refuseValue "register value" value.toNat (256 ^ bytes - 1) = none)
    : ChainedFrom Raises h
        (some (.writeWindow (UInt32.ofNat (address - address % bytes)) (.ofNat bytes value.toNat)))
        (h.window.writeRegister address bytes value) := by
  obtain ⟨width, hwidth, hvalidate⟩ := Window.validate_of_accepted haccepted hvalue
  unfold Window.writeRegister
  rw [window_size, ofExcept_ok_bind hvalidate, ← hwidth]
  apply ChainedFrom.map
  apply chainedFrom_writeBytes
  . apply List.ne_nil_of_length_pos
    rw [Bytes.length_ofNat]
    exact width.bytes_pos
  . rw [Bytes.length_ofNat]
    cases width <;> decide

theorem chainedFrom_readSpan {address length : Nat} (haccepted : refuseSpan address length = none)
    : ChainedFrom Raises h
        (if length = 0 then none
          else some (.readWindow (UInt32.ofNat address) (UInt32.ofNat (min maxDataLength length))))
        (h.window.readSpan address length) := by
  unfold Window.readSpan
  rw [window_size, ofExcept_accepted_bind (checkSpan_eq address length) haccepted]
  split
  . next hzero =>
    rw [hzero]
    unfold window Tunnelled.readBytes
    dsimp only
    rw [spans_zero]
    apply ChainedFrom.nothing
  . apply chainedFrom_readBytes
    omega

theorem chained_of_listed {ports : List UInt8} {work : Operation α}
    (hraises : ∀ port, maxPorts ≤ port → Raises (.portOutOfRange port))
    (hrefused : ∀ e, refusePorts ports = some e → work = throw e)
    (haccepted : refusePorts ports = none → Chained Raises work)
    : Chained Raises work := by
  cases hports : refusePorts ports with
  | none => exact haccepted hports
  | some e =>
    obtain ⟨port, hport, rfl⟩ := exists_port_of_refusePorts hports
    rw [hrefused _ hports]
    exact .raised _ (hraises port hport)

theorem chainedFrom_bandwidthOfAll {clear : Bool}
    : ChainedFrom (Feature.bandwidthOfAll clear).RaisesLater h (some .linkStatus)
        (h.bandwidthOfAll clear) := by
  have hraises : ∀ port, maxPorts ≤ port → (Feature.bandwidthOfAll clear).RaisesLater (.portOutOfRange port) := by
    intro port hport
    exact ⟨port, hport, rfl⟩
  unfold bandwidthOfAll
  apply chainedFrom_status.bind
  intro statuses
  apply Chained.bind
  . apply chained_of_listed hraises (fun e => bandwidth_of_refused)
    intro hports
    exact (chainedFrom_bandwidth hports).chained
  . intro snapshots
    apply Chained.done

theorem chainedFrom_selectBandwidthOfAll {kind : BandwidthKind}
    : ChainedFrom (Feature.selectBandwidthOfAll kind).RaisesLater h (some .linkStatus)
        (h.selectBandwidthOfAll kind) := by
  have hraises : ∀ port,
      maxPorts ≤ port → (Feature.selectBandwidthOfAll kind).RaisesLater (.portOutOfRange port) := by
    intro port hport
    exact ⟨port, hport, rfl⟩
  unfold selectBandwidthOfAll
  apply chainedFrom_status.bind
  intro statuses
  apply chained_of_listed hraises (fun e => selectBandwidth_of_refused)
  intro hports
  exact (chainedFrom_selectBandwidth hports).chained

theorem chainedFrom_dieTemperature : ChainedFrom Raises h (some .measureTemperature) h.dieTemperature := by
  unfold dieTemperature
  apply (ChainedFrom.order (Request.fits_of_isFixed rfl)).bind
  intro _
  apply (ChainedFrom.requestWord (r := .readTemperature) (Request.fits_of_isFixed rfl)).chained.bind
  intro hundredths
  apply Chained.done

theorem chainedFrom_bindInfo {physical : UInt8} (hphysical : refusePort physical = none)
    : ChainedFrom Raises h (some (.bindInfo physical)) (h.bindInfo physical) := by
  unfold bindInfo
  rw [ofExcept_accepted_bind (checkPhysicalPort_eq physical) hphysical]
  apply ChainedFrom.map
  apply ChainedFrom.of_fits (Request.fits_of_isFixed rfl)

theorem chainedFrom_bind {partition logical physical : UInt8}
    (haccepted : (refusePartition partition).or (refusePort physical) = none)
    : ChainedFrom Raises h (some (.bind partition logical physical)) (h.bind partition logical physical) := by
  obtain ⟨hpartition, hphysical⟩ := Option.or_eq_none_iff.mp haccepted
  unfold bind
  rw [ofExcept_accepted_bind (checkPartition_eq partition) hpartition]
  rw [ofExcept_accepted_bind (checkPhysicalPort_eq physical) hphysical]
  apply ChainedFrom.order (Request.fits_of_isFixed rfl)

theorem chainedFrom_unbind {partition logical : UInt8} (hpartition : refusePartition partition = none)
    : ChainedFrom Raises h (some (.unbind partition logical)) (h.unbind partition logical) := by
  unfold unbind
  rw [ofExcept_accepted_bind (checkPartition_eq partition) hpartition]
  apply ChainedFrom.order (Request.fits_of_isFixed rfl)

theorem injectCreditTimeout_of_accepted {port : UInt8}
    (haccepted : (Feature.injectCreditTimeout port).refusal? h.generation = none)
    : h.injectCreditTimeout port = h.requestWord (.injectCreditTimeout port) := by
  unfold Feature.refusal? at haccepted
  dsimp only at haccepted
  split at haccepted
  . next hgeneration =>
    unfold injectCreditTimeout
    rw [if_neg (not_not_intro hgeneration)]
    exact inject_of_accepted haccepted _
  . cases haccepted

theorem chainedFrom_of_requestWord {operation : Operation UInt32} {r : Request}
    (hrequest : operation = h.requestWord r) (hfixed : r.isFixed = true)
    : ChainedFrom Raises h (some r) operation := by
  rw [hrequest]
  exact ChainedFrom.requestWord (Request.fits_of_isFixed hfixed)

theorem chainedFrom_perform (h : Handle) {f : Feature α} (haccepted : f.refusal? h.generation = none)
    : ChainedFrom f.RaisesLater h f.firstRequest? (h.perform f) := by
  cases f with
  | echo word => exact ChainedFrom.requestWord (Request.fits_of_isFixed rfl)
  | hardReset => exact ChainedFrom.order (Request.fits_of_isFixed rfl)
  | dieTemperature => exact chainedFrom_dieTemperature
  | status => exact chainedFrom_status
  | bindInfo physical => exact chainedFrom_bindInfo haccepted
  | bind partition logical physical => exact chainedFrom_bind haccepted
  | unbind partition logical => exact chainedFrom_unbind haccepted
  | injectDllp | injectTlpSequence => exact chainedFrom_of_requestWord (inject_of_accepted haccepted _) rfl
  | injectDllpCrc | injectTlpLcrc | injectNack =>
    exact chainedFrom_of_requestWord (inject_value_of_accepted haccepted _) rfl
  | injectCreditTimeout => exact chainedFrom_of_requestWord (injectCreditTimeout_of_accepted haccepted) rfl
  | setupCounter | clearCounter => exact chainedFrom_setupCounter haccepted
  | counterSetups => exact chainedFrom_counterSetups haccepted
  | counterValues => exact chainedFrom_counterValues haccepted
  | counters => exact chainedFrom_counters haccepted
  | bandwidth => exact chainedFrom_bandwidth haccepted
  | bandwidthOfAll => exact chainedFrom_bandwidthOfAll
  | selectBandwidth => exact chainedFrom_selectBandwidth haccepted
  | selectBandwidthOfAll => exact chainedFrom_selectBandwidthOfAll
  | setupLatencies => exact chainedFrom_setupLatencies haccepted
  | setupLatency => exact chainedFrom_setupLatency haccepted
  | latencies => exact chainedFrom_latencies haccepted
  | latency => exact chainedFrom_latency haccepted
  | readRegister => exact chainedFrom_readRegister haccepted
  | writeRegister =>
    obtain ⟨hregister, hvalue⟩ := Option.or_eq_none_iff.mp haccepted
    exact chainedFrom_writeRegister hregister hvalue
  | readSpan => exact chainedFrom_readSpan haccepted

end Handle
end PcieSwitch
