import PcieSwitch.Proofs.CounterPages
import PcieSwitch.Proofs.CounterRecords

/-!
This module contains the reads of the bandwidth and the latency counters against a firmware that keeps a
record for each port. However the ports are spread over commands, and whether or not the counters are cleared,
a read of many ports is the same as reading them one after the other.
-/

namespace PcieSwitch

def Traffic.fields (t : Traffic) : List Field :=
  [.u64 t.posted, .u64 t.completion, .u64 t.nonPosted]

def Bandwidth.fields (b : Bandwidth) : List Field :=
  .u64 b.time :: (b.egress.fields ++ b.ingress.fields)

def Latency.fields (l : Latency) : List Field :=
  [.u16 l.current, .u16 l.maximum]

def Bandwidth.entry (b : Bandwidth) : Bytes :=
  .ofFields b.fields

def Latency.entry (l : Latency) : Bytes :=
  .ofFields l.fields

theorem Bytes.ofNat_toNat_u64 (n : UInt64) : UInt64.ofNat (Bytes.toNat (.ofNat 8 n.toNat)) = n := by
  rw [Bytes.toNat_ofNat n.toNat_lt, UInt64.ofNat_toNat]

theorem Bytes.ofNat_toNat_u16 (n : UInt16) : UInt16.ofNat (Bytes.toNat (.ofNat 2 n.toNat)) = n := by
  rw [Bytes.toNat_ofNat n.toNat_lt, UInt16.ofNat_toNat]

theorem Traffic.length_fields (t : Traffic) : (Bytes.ofFields t.fields).length = 24 := by
  simp [fields, Field.width]

theorem Traffic.ofEntry_fields (t : Traffic) : Traffic.ofEntry (.ofFields t.fields) = t := by
  simp [ofEntry, fields, Field.encode, List.drop_append, List.drop_of_length_le, List.take_of_length_le,
    Bytes.ofNat_toNat_u64]

theorem Bandwidth.length_entry (b : Bandwidth) : b.entry.length = 56 := by
  simp [entry, fields, Bytes.ofFields_append, Traffic.length_fields, Field.width]

theorem Bandwidth.ofEntry_entry (b : Bandwidth) : Bandwidth.ofEntry b.entry = b := by
  simp [ofEntry, entry, fields, Bytes.ofFields_append, Field.encode, List.drop_append, List.drop_of_length_le,
    List.take_of_length_le, Traffic.length_fields, Traffic.ofEntry_fields, Bytes.ofNat_toNat_u64]

theorem Latency.length_entry (l : Latency) : l.entry.length = 4 := by
  simp [entry, fields, Field.width]

theorem Bandwidth.ofReply_flatMap (values : List Bandwidth)
    : Bandwidth.ofReply values.length (values.flatMap entry) = values := by
  rw [ofReply_eq_map]
  . apply Read.map_entry_flatMap length_entry ofEntry_entry
  . apply Read.length_flatMap_of_width length_entry

theorem Latency.ofEntry_entry (l : Latency) : Latency.ofEntry l.entry = l := by
  simp [ofEntry, entry, fields, Field.encode, List.take_of_length_le, Bytes.ofNat_toNat_u16]

theorem Latency.ofReply_flatMap (values : List Latency)
    : Latency.ofReply values.length (values.flatMap entry) = values := by
  rw [ofReply_eq_map]
  . apply Read.map_entry_flatMap length_entry ofEntry_entry
  . apply Read.length_flatMap_of_width length_entry

open Program (attempt attempt_bind_of_ok attempt_pure)

def Exchange.bandwidthQuery (entries : List (UInt8 × Bool)) : Exchange :=
  PageFormat.bandwidth.exchange (entries.map fun entry => [entry.1, entry.2.toUInt8])

def Exchange.latencyQuery (ports : List UInt8) (clear : Bool) : Exchange :=
  (PageFormat.latency clear).exchange (ports.map fun port => [port])

namespace Handler

/--
The firmware keeps a record of bandwidth counters for each port, and serves the entries of a query from them
in order.
-/
structure ServesBandwidth (outside : Handler deviceInterface σ) (records : σ → UInt8 → Bandwidth)
    : Prop where
  log : ∀ line s, records (outside (.log line) s).2 = records s
  query : ∀ {s entries}, entries ≠ [] → entries.length ≤ Bandwidth.portsPerQuery →
    (∀ entry ∈ entries, entry.1.toNat < maxPorts) →
      ∃ s',
        outside (.exchange (.bandwidthQuery entries)) s
          =
        (.ok ((serve .zero (records s) entries).1.flatMap Bandwidth.entry), s')
          ∧
        records s' = (serve .zero (records s) entries).2

/--
The firmware keeps a record of latency counters for each port, and serves the ports of a query from them in
order.
-/
structure ServesLatency (outside : Handler deviceInterface σ) (records : σ → UInt8 → Latency)
    : Prop where
  log : ∀ line s, records (outside (.log line) s).2 = records s
  query : ∀ {s ports clear}, ports ≠ [] → ports.length ≤ maxPorts →
    (∀ port ∈ ports, port.toNat < maxPorts) →
      ∃ s',
        outside (.exchange (.latencyQuery ports clear)) s
          =
        (.ok ((servePorts .zero clear (records s) ports).1.flatMap Latency.entry), s')
          ∧
        records s' = (servePorts .zero clear (records s) ports).2

end Handler

namespace Handle

open Operation

variable {h : Handle} {outside : Handler deviceInterface σ}

theorem readsInOrder_request {records : σ → UInt8 → β} {fresh : β} {clear : Bool} {r : Request}
    {x : Exchange} (hexchange : r.exchange h.generation = x) (hfits : r.Fits h.generation)
    (hlog : ∀ line s, records (outside (.log line) s).2 = records s) {ports : List UInt8}
    {encode : β → Bytes} {width : Nat} (hwidth : ∀ value, (encode value).length = width)
    (hreply : x.replyLength = width * ports.length) {decode : Nat → Bytes → List β}
    (hdecode : ∀ values, decode values.length (values.flatMap encode) = values)
    (hanswer : ∀ s, ∃ s',
      outside (.exchange x) s = (.ok ((servePorts fresh clear (records s) ports).1.flatMap encode), s')
        ∧
      records s' = (servePorts fresh clear (records s) ports).2)
    : ReadsInOrder outside records fresh clear (do return decode ports.length (← h.request r)) ports := by
  intro s
  have hlogged : ∀ line, ∃ s',
      outside (.exchange x) (outside (.log line) s).2
        = (.ok ((servePorts fresh clear (records s) ports).1.flatMap encode), s')
        ∧
      records s' = (servePorts fresh clear (records s) ports).2 := by
    intro line
    rw [← hlog line s]
    apply hanswer
  have hlength := length_servePorts fresh clear (records s) ports
  have hfit : Bytes.fit ((servePorts fresh clear (records s) ports).1.flatMap encode) x.replyLength
      = (servePorts fresh clear (records s) ports).1.flatMap encode := by
    apply Bytes.fit_eq_self
    rw [Read.length_flatMap_of_width hwidth, hlength, hreply]
  obtain ⟨s', hrequest, hleft⟩ := attempt_request_of_answer hexchange hfits hlogged
  refine ⟨s', ?_, hleft⟩
  rw [attempt_bind_of_ok hrequest, hfit, attempt_pure, ← hlength, hdecode]

theorem readsInOrder_bandwidth (h : Handle) {records : σ → UInt8 → Bandwidth}
    (hserves : outside.ServesBandwidth records) (clear : Bool) {ports : List UInt8}
    (hports : ∀ port ∈ ports, port.toNat < maxPorts)
    : ReadsInOrder outside records .zero clear (h.bandwidth ports clear) ports := by
  have hcapacity := PageFormat.lawful_bandwidth.capacity_pos
  unfold bandwidth
  rw [ofExcept_ok_bind (checkPorts_eq_ok_iff.mpr hports)]
  apply ReadsInOrder.paged (flatten_pages hcapacity ports)
  intro page hpage
  have hentries : (page.map (·, clear)).map (fun entry => [entry.1, entry.2.toUInt8])
      = page.map fun port => [port, clear.toUInt8] := by
    rw [List.map_map]
    rfl
  have hexchange : (Request.bandwidth page clear).exchange h.generation
      = .bandwidthQuery (page.map (·, clear)) := by
    rw [Request.exchange_bandwidth, Exchange.bandwidthQuery, hentries]
  apply readsInOrder_request hexchange _ hserves.log Bandwidth.length_entry _ Bandwidth.ofReply_flatMap
  . intro s
    apply hserves.query
    . simp [ne_nil_of_mem_pages hcapacity hpage]
    . rw [List.length_map]
      apply length_le_of_mem_pages hcapacity hpage
    . intro entry hentry
      obtain ⟨port, hport, rfl⟩ := List.mem_map.mp hentry
      apply hports port
      apply mem_of_mem_pages hcapacity hpage hport
  . apply PageFormat.fits_of_mem_pages PageFormat.lawful_bandwidth (fun _ => rfl)
      (fun page => Request.exchange_bandwidth page clear) hpage
  . rw [← hexchange]
    apply Nat.mul_comm

theorem readsInOrder_latencies (h : Handle) {records : σ → UInt8 → Latency}
    (hserves : outside.ServesLatency records) (clear : Bool) {ports : List UInt8}
    (hports : ∀ port ∈ ports, port.toNat < maxPorts)
    : ReadsInOrder outside records .zero clear (h.latencies ports clear) ports := by
  have hcapacity := (PageFormat.lawful_latency clear).capacity_pos
  unfold latencies
  rw [ofExcept_ok_bind (checkPorts_eq_ok_iff.mpr hports)]
  apply ReadsInOrder.paged (flatten_pages hcapacity ports)
  intro page hpage
  have hexchange : (Request.latency page clear).exchange h.generation = .latencyQuery page clear :=
    Request.exchange_latency page clear
  apply readsInOrder_request hexchange _ hserves.log Latency.length_entry _ Latency.ofReply_flatMap
  . intro s
    apply hserves.query
    . exact ne_nil_of_mem_pages hcapacity hpage
    . apply length_le_of_mem_pages hcapacity hpage
    . intro port hport
      apply hports port
      apply mem_of_mem_pages hcapacity hpage hport
  . apply PageFormat.fits_of_mem_pages (PageFormat.lawful_latency clear) (fun _ => rfl)
      (fun page => Request.exchange_latency page clear) hpage
  . rw [← hexchange]
    apply Nat.mul_comm

end Handle

/--
A read of many ports' counters gives each port's record in turn, as those before it have left the records. It
acts like reading the ports one after the other, and like reading the first of them and then the others,
wherever they are parted.
-/
structure ReadsPortByPort (outside : Handler deviceInterface σ) (records : σ → UInt8 → β) (fresh : β)
    (clear : Bool) (read : List UInt8 → Operation (List β)) : Prop where
  inOrder : ∀ ports, (∀ port ∈ ports, port.toNat < maxPorts) →
    Operation.ReadsInOrder outside records fresh clear (read ports) ports
  each : ∀ ports, (∀ port ∈ ports, port.toNat < maxPorts) →
    Operation.ActsAlike outside records (read ports)
      (do return (← ports.mapM fun port => read [port]).flatten)
  parts : ∀ ports others, (∀ port ∈ ports ++ others, port.toNat < maxPorts) →
    Operation.ActsAlike outside records (read (ports ++ others))
      (do
        let first ← read ports
        let rest ← read others
        return first ++ rest)

theorem readsPortByPort_of_readsInOrder {outside : Handler deviceInterface σ}
    {records : σ → UInt8 → β} {fresh : β} {clear : Bool} {read : List UInt8 → Operation (List β)}
    (h : ∀ ports, (∀ port ∈ ports, port.toNat < maxPorts) →
      Operation.ReadsInOrder outside records fresh clear (read ports) ports)
    : ReadsPortByPort outside records fresh clear read := by
  constructor
  case inOrder => exact h
  case each =>
    intro ports hports
    apply (h ports hports).actsAlike
    apply Operation.ReadsInOrder.mapM
    intro port hport
    apply h
    intro other hother
    rw [List.mem_singleton.mp hother]
    exact hports port hport
  case parts =>
    intro ports others hports
    obtain ⟨hfirst, hrest⟩ := List.forall_mem_append.mp hports
    apply (h (ports ++ others) hports).actsAlike
    apply Operation.ReadsInOrder.append
    . apply h ports hfirst
    . apply h others hrest

/--
Against a firmware that keeps one record for each port and serves a query's entries in order, each port is read
in turn and cleared if asked to. How ports are spread over queries makes no difference, neither to the results
nor to the records left. This holds of the bandwidth counters and of the latency counters.
-/
theorem paged_reads_are_port_by_port (h : Handle) (outside : Handler deviceInterface σ) (clear : Bool)
    : (∀ records, outside.ServesBandwidth records →
        ReadsPortByPort outside records .zero clear fun ports => h.bandwidth ports clear)
        ∧
      (∀ records, outside.ServesLatency records →
        ReadsPortByPort outside records .zero clear fun ports => h.latencies ports clear) := by
  constructor
  . intro records hserves
    apply readsPortByPort_of_readsInOrder
    intro ports hports
    apply h.readsInOrder_bandwidth hserves clear hports
  . intro records hserves
    apply readsPortByPort_of_readsInOrder
    intro ports hports
    apply h.readsInOrder_latencies hserves clear hports

structure PortCounters where
  bandwidth : UInt8 → Bandwidth
  latency : UInt8 → Latency

def PortCounters.entriesOf : Bytes → List (UInt8 × Bool)
  | port :: clear :: rest => (port, clear != 0) :: entriesOf rest
  | _ => []

def counterFirmware : Handler deviceInterface PortCounters
  | .exchange x, counters =>
    if x.payload.head? = some 4 then
      let served := serve .zero counters.bandwidth (PortCounters.entriesOf (x.payload.drop 2))
      (.ok (served.1.flatMap Bandwidth.entry), { counters with bandwidth := served.2 })
    else if x.payload.head? = some 6 then
      let served := servePorts .zero (x.payload[2]? != some 0) counters.latency (x.payload.drop 3)
      (.ok (served.1.flatMap Latency.entry), { counters with latency := served.2 })
    else
      (.error (.firmware ⟨0x64005⟩), counters)
  | .event _, counters => (.error (.unsupported "switch events"), counters)
  | .now, counters => (0, counters)
  | .log _, counters => ((), counters)

theorem PortCounters.entriesOf_flatten (entries : List (UInt8 × Bool))
    : entriesOf (entries.map fun entry => [entry.1, entry.2.toUInt8]).flatten = entries := by
  induction entries with
  | nil => rfl
  | cons entry rest ih =>
    obtain ⟨port, clear⟩ := entry
    have hclear : (clear.toUInt8 != 0) = clear := by cases clear <;> rfl
    rw [List.map_cons, List.flatten_cons, List.cons_append, List.cons_append, List.nil_append, entriesOf, ih,
      hclear]

theorem counterFirmware_servesBandwidth : counterFirmware.ServesBandwidth PortCounters.bandwidth where
  log _ _ := rfl
  query {counters entries} _ _ _ := by
    refine ⟨{ counters with bandwidth := (serve .zero counters.bandwidth entries).2 }, ?_, rfl⟩
    unfold counterFirmware Exchange.bandwidthQuery PageFormat.exchange
    dsimp only [PageFormat.bandwidth]
    rw [List.head?_cons, if_pos rfl, List.drop_succ_cons, List.drop_succ_cons, List.drop_zero,
      List.nil_append, PortCounters.entriesOf_flatten]

theorem counterFirmware_servesLatency : counterFirmware.ServesLatency PortCounters.latency where
  log _ _ := rfl
  query {counters ports clear} _ _ _ := by
    refine ⟨{ counters with latency := (servePorts .zero clear counters.latency ports).2 }, ?_, rfl⟩
    have hports : (ports.map fun port => [port]).flatten = ports := by
      rw [← List.flatMap_def, List.flatMap_singleton']
    unfold counterFirmware Exchange.latencyQuery PageFormat.exchange
    dsimp only [PageFormat.latency]
    rw [List.head?_cons, if_neg (by decide), if_pos rfl, hports]
    cases clear <;> rfl

/--
A port that is named eighteen times takes two queries. It has its counters once, and then cleared ones,
whether all are asked for at once, one at a time, or in two parts that end elsewhere than the queries.
-/
theorem repeated_port_reads_cleared
    : let h : Handle := { name := "switch", partition := 0, generation := .gen4 }
      let traffic : Traffic := ⟨1, 2, 3⟩
      let counters : PortCounters := { bandwidth := fun _ => ⟨5, traffic, traffic⟩, latency := fun _ => ⟨6, 7⟩ }
      (∀ port ∈ List.replicate 18 (3 : UInt8), port.toNat < maxPorts)
        ∧
      counterFirmware.ServesBandwidth PortCounters.bandwidth
        ∧
      counterFirmware.ServesLatency PortCounters.latency
        ∧
      Operation.ActsAlike counterFirmware PortCounters.bandwidth (h.bandwidth (.replicate 18 3) true)
        (do return (← (List.replicate 18 (3 : UInt8)).mapM fun port => h.bandwidth [port] true).flatten)
        ∧
      Operation.ActsAlike counterFirmware PortCounters.latency (h.latencies (.replicate 18 3) true)
        (do
          let first ← h.latencies (.replicate 7 3) true
          let rest ← h.latencies (.replicate 11 3) true
          return first ++ rest)
        ∧
      (attempt counterFirmware (h.bandwidth (.replicate 18 3) true) counters).1
        = .ok (⟨5, traffic, traffic⟩ :: .replicate 17 .zero) := by
  intro h traffic counters
  have hports : ∀ port ∈ List.replicate 18 (3 : UInt8), port.toNat < maxPorts := by
    intro port hport
    rw [List.eq_of_mem_replicate hport]
    decide
  have hreads := paged_reads_are_port_by_port h counterFirmware true
  refine ⟨hports, counterFirmware_servesBandwidth, counterFirmware_servesLatency, ?_, ?_, ?_⟩
  . exact (hreads.1 _ counterFirmware_servesBandwidth).each _ hports
  . exact (hreads.2 _ counterFirmware_servesLatency).parts (.replicate 7 3) (.replicate 11 3) hports
  . obtain ⟨_, hrun, _⟩ := (hreads.1 _ counterFirmware_servesBandwidth).inOrder _ hports counters
    rw [hrun]
    rfl

end PcieSwitch
