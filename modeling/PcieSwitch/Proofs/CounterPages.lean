import PcieSwitch.Proofs.Checks
import PcieSwitch.Proofs.CounterEntries
import PcieSwitch.Proofs.PageFormat
import PcieSwitch.Simulation.Switch

/-!
This module contains the pages of the bandwidth and the latency counters. Whatever the switch answers, the
commands carry the ports that were asked for without loss, without repetition and in order, and each port's
counters are read from its own place.
-/

namespace PcieSwitch

namespace PageFormat

def bandwidth : PageFormat where
  operation := 4
  options := []
  capacity := 16
  entryWidth := 2
  replyWidth := 56

def bandwidthKind : PageFormat where
  operation := 5
  options := []
  capacity := 48
  entryWidth := 2
  replyWidth := 0

def latencyPairs : PageFormat where
  operation := 7
  options := []
  capacity := 48
  entryWidth := 2
  replyWidth := 0

def latency (clear : Bool) : PageFormat where
  operation := 6
  options := [clear.toUInt8]
  capacity := 48
  entryWidth := 1
  replyWidth := 4

theorem lawful_bandwidth : bandwidth.Lawful := by
  constructor <;> decide

theorem lawful_bandwidthKind : bandwidthKind.Lawful := by
  constructor <;> decide

theorem lawful_latencyPairs : latencyPairs.Lawful := by
  constructor <;> decide

theorem lawful_latency (clear : Bool) : (latency clear).Lawful := by
  cases clear <;> constructor <;> decide

end PageFormat

namespace Request

variable {generation : Generation}

@[simp]
theorem encode_monitor (subcommand : MonitorSubcommand) : (monitor subcommand).encode = [subcommand.number] := by
  apply Field.encode_u8

theorem exchange_bandwidth (ports : List UInt8) (clear : Bool)
    : (Request.bandwidth ports clear).exchange generation
        =
      PageFormat.bandwidth.exchange (ports.map fun port => [port, clear.toUInt8]) := by
  unfold exchange PageFormat.exchange
  rw [List.length_map]
  congr 1
  . unfold payload fields count
    rw [Bytes.ofFields_append, Bytes.ofFields_flatMap]
    simp [PageFormat.bandwidth, MonitorSubcommand.number]
  . apply Nat.mul_comm

theorem exchange_selectBandwidth (ports : List UInt8) (kind : BandwidthKind)
    : (Request.selectBandwidth ports kind).exchange generation
        =
      PageFormat.bandwidthKind.exchange (ports.map fun port => [port, kind.number]) := by
  unfold exchange PageFormat.exchange
  rw [List.length_map]
  congr 1
  . unfold payload fields count
    rw [Bytes.ofFields_append, Bytes.ofFields_flatMap]
    simp [PageFormat.bandwidthKind, MonitorSubcommand.number]
  . exact (Nat.zero_mul _).symm

theorem exchange_setupLatency (pairs : List (UInt8 × UInt8))
    : (Request.setupLatency pairs).exchange generation
        =
      PageFormat.latencyPairs.exchange (pairs.map fun pair => [pair.1, pair.2]) := by
  unfold exchange PageFormat.exchange
  rw [List.length_map]
  congr 1
  . unfold payload fields count
    rw [Bytes.ofFields_append, Bytes.ofFields_flatMap]
    simp [PageFormat.latencyPairs, MonitorSubcommand.number]
  . exact (Nat.zero_mul _).symm

theorem exchange_latency (ports : List UInt8) (clear : Bool)
    : (Request.latency ports clear).exchange generation
        =
      (PageFormat.latency clear).exchange (ports.map fun port => [port]) := by
  unfold exchange PageFormat.exchange
  rw [List.length_map]
  congr 1
  . unfold payload fields count
    simp [PageFormat.latency, MonitorSubcommand.number, ← List.flatMap_def]
  . apply Nat.mul_comm

theorem fits_linkStatus : Request.linkStatus.Fits generation := by
  cases generation <;> constructor <;> decide

end Request

namespace Handle

variable {h : Handle}

theorem pages_of_sends_bandwidth {ports : List UInt8} (hports : ∀ port ∈ ports, port.toNat < maxPorts)
    {clear : Bool} {sent : List Sent} {result : Except Error (List Bandwidth)}
    (hsends : (h.bandwidth ports clear).Sends sent result)
    : PageFormat.bandwidth.SentInPages (ports.map fun port => [port, clear.toUInt8]) sent result
        ∧
      ∀ values, result = .ok values →
        PageFormat.bandwidth.ReadInPages Bandwidth.ofEntry
          (ports.map fun port => [port, clear.toUInt8]) sent values := by
  unfold bandwidth at hsends
  rw [Operation.ofExcept_ok_bind (checkPorts_eq_ok_iff.mpr hports)] at hsends
  apply PageFormat.pages_of_sends_paged PageFormat.lawful_bandwidth (fun _ => rfl)
    (fun page => Request.exchange_bandwidth page clear) _ hsends
  intro n data hdata
  exact Bandwidth.ofReply_eq_map hdata

theorem ports_of_sends_bandwidth {ports : List UInt8} {clear : Bool} {sent : List Sent}
    {values : List Bandwidth} (hsends : (h.bandwidth ports clear).Sends sent (.ok values))
    : ∀ port ∈ ports, port.toNat < maxPorts := by
  rw [← checkPorts_eq_ok_iff]
  unfold bandwidth at hsends
  cases hcheck : checkPorts ports with
  | ok => rfl
  | error e =>
    rw [Operation.ofExcept_error_bind hcheck, Operation.sends_throw] at hsends
    cases hsends.2

theorem pages_of_sends_latencies {ports : List UInt8} (hports : ∀ port ∈ ports, port.toNat < maxPorts)
    {clear : Bool} {sent : List Sent} {result : Except Error (List Latency)}
    (hsends : (h.latencies ports clear).Sends sent result)
    : (PageFormat.latency clear).SentInPages (ports.map fun port => [port]) sent result
        ∧
      ∀ values, result = .ok values →
        (PageFormat.latency clear).ReadInPages Latency.ofEntry (ports.map fun port => [port]) sent
          values := by
  unfold latencies at hsends
  rw [Operation.ofExcept_ok_bind (checkPorts_eq_ok_iff.mpr hports)] at hsends
  apply PageFormat.pages_of_sends_paged (PageFormat.lawful_latency clear) (fun _ => rfl)
    (fun page => Request.exchange_latency page clear) _ hsends
  intro n data hdata
  exact Latency.ofReply_eq_map hdata

theorem sends_status {sent : List Sent} {result : Except Error (List PortStatus)}
    : h.status.Sends sent result
        ↔
      ∃ answer,
        sent = [(Request.linkStatus.exchange h.generation, answer)]
          ∧
        result = answer.map fun reply => PortStatus.ofReply (reply.fit Request.linkStatus.replyLength) := by
  apply sends_request_pure Request.fits_linkStatus

end Handle

/--
The counters of all ports were measured: the ports are those of a status reply, in its order, and each has
the counters that were read from the entry that names it.
-/
def Measured (generation : Generation) (clear : Bool) (sent : List Sent)
    (listed : List (PortId × Bandwidth)) : Prop :=
  ∃ reply queries,
    sent = (Request.linkStatus.exchange generation, .ok reply) :: queries
      ∧
    listed.map Prod.fst
      = (PortStatus.ofReply (reply.fit Request.linkStatus.replyLength)).map PortStatus.port
      ∧
    PageFormat.bandwidth.SentInPages (listed.map fun l => [l.1.physical, clear.toUInt8]) queries
      (.ok (listed.map Prod.snd))
      ∧
    PageFormat.bandwidth.ReadInPages Bandwidth.ofEntry
      (listed.map fun l => [l.1.physical, clear.toUInt8]) queries (listed.map Prod.snd)

theorem measured_zip {h : Handle} {clear : Bool} {reply : Bytes} {queries : List Sent}
    {snapshots : List Bandwidth} {ports : List PortId}
    (hports : ports = (PortStatus.ofReply (reply.fit Request.linkStatus.replyLength)).map PortStatus.port)
    (hquery : (h.bandwidth (ports.map PortId.physical) clear).Sends queries (.ok snapshots))
    : Measured h.generation clear ((Request.linkStatus.exchange h.generation, .ok reply) :: queries)
        (ports.zip snapshots) := by
  obtain ⟨hsent, hread⟩ := Handle.pages_of_sends_bandwidth (Handle.ports_of_sends_bandwidth hquery) hquery
  specialize hread snapshots rfl
  have hlength : snapshots.length = ports.length := by
    rw [hread.length_eq, List.length_map, List.length_map]
  have hfst : (ports.zip snapshots).map Prod.fst = ports := List.map_fst_zip (Nat.le_of_eq hlength.symm)
  have hsnd : (ports.zip snapshots).map Prod.snd = snapshots := List.map_snd_zip (Nat.le_of_eq hlength)
  have hentries : (ports.zip snapshots).map (fun l => [l.1.physical, clear.toUInt8])
      = (ports.map PortId.physical).map (fun port => [port, clear.toUInt8]) := by
    rw [← hfst, List.map_map, List.map_map, hfst]
    rfl
  refine ⟨reply, queries, rfl, ?_, ?_, ?_⟩
  . rw [hfst, hports]
  . rw [hentries, hsnd]
    exact hsent
  . rw [hentries, hsnd]
    exact hread

theorem Handle.measured_of_sends {h : Handle} {clear : Bool} {sent : List Sent}
    {listed : List (PortId × Bandwidth)} (hsends : (h.bandwidthOfAll clear).Sends sent (.ok listed))
    : Measured h.generation clear sent listed := by
  unfold bandwidthOfAll at hsends
  rcases Operation.sends_bind.mp hsends with ⟨e, _, he⟩ | ⟨statuses, s₁, s₂, rfl, hstatus, hrest⟩
  . cases he
  . obtain ⟨answer, rfl, hanswer⟩ := sends_status.mp hstatus
    obtain ⟨inner, hquery, hlisted⟩ := Operation.sends_bind_pure.mp hrest
    cases answer with
    | error e => cases hanswer
    | ok reply =>
      cases inner with
      | error e => cases hlisted
      | ok snapshots =>
        cases hanswer
        cases hlisted
        exact measured_zip rfl hquery

end PcieSwitch
