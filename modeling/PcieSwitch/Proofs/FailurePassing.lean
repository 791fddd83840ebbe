import PcieSwitch.Proofs.PortListing
import PcieSwitch.Proofs.ReplyEntries
import PcieSwitch.Proofs.TransferLimit

/-!
This module contains what operations make of failing commands, which is to stop and to fail the same way, and
of succeeding ones, which is to keep all that was replied.
-/

namespace PcieSwitch

namespace Operation

def received (sent : List Sent) : Bytes :=
  sent.flatMap fun y => y.2.toOption.elim [] (·.fit y.1.replyLength)

theorem received_singleton (x : Exchange) (reply : Bytes) : received [(x, .ok reply)] = reply.fit x.replyLength := by
  apply List.flatMap_singleton

theorem received_append (sent others : List Sent) : received (sent ++ others) = received sent ++ received others := by
  apply List.flatMap_append

theorem received_cons (x : Exchange) (reply : Bytes) (sent : List Sent)
    : received ((x, .ok reply) :: sent) = reply.fit x.replyLength ++ received sent := by
  apply List.flatMap_cons

/--
A run of an operation ends with the first command that fails and with its error. Up to it the commands are those
that are sent where every command succeeds, with the same replies.
-/
structure PassesFailures (operation : Operation α) (sent : List Sent) (result : Except Error α) : Prop where
  asAnswered : ∀ more,
    sent.map Prod.fst <+: (operation.sent answering (replies sent ++ more)).map Prod.fst
  stops : ∀ before x e after,
    sent = before ++ (x, .error e) :: after → after = [] ∧ result = .error e

theorem passesFailures_throw {e : Error} {sent : List Sent} {result : Except Error α}
    (hsends : (throw e : Operation α).Sends sent result)
    : (throw e : Operation α).PassesFailures sent result := by
  obtain ⟨rfl, rfl⟩ := sends_throw.mp hsends
  constructor
  . intro more
    apply List.nil_prefix
  . intro before x e after hsent
    simp at hsent

theorem Chained.passesFailures {Raises : Error → Prop} {operation : Operation α} {sent : List Sent}
    {result : Except Error α} (h : Chained Raises operation) (hsends : operation.Sends sent result)
    : operation.PassesFailures sent result := by
  constructor
  . exact h.prefix_answering hsends
  . intro before x e after hsent
    exact h.stops_at_failure hsends hsent

end Operation

open Operation (received)

/--
The value of an operation is what its replies tell: each part of it is found at its place in the bytes that were received,
and nothing that was received is left out.
-/
def Feature.Keeps (generation : Generation) (sent : List Sent) : Feature α → α → Prop
  | .status, statuses => statuses.Perm (PortStatus.kept (received sent))
  | .bindInfo _, infos => infos = BindInfo.entries (received sent)
  | .counterSetups _ _ count, setups => setups = CounterSetup.entries count (received sent)
  | .counterValues _ _ count _, values => values = counterValueEntries count (received sent)
  | .counters _ _ count _, pairs =>
    -- the setups are replied first, and take nine bytes each
    pairs.map Prod.fst = CounterSetup.entries count (received sent)
      ∧ pairs.map Prod.snd = counterValueEntries count ((received sent).drop (9 * count))
  | .bandwidth ports clear, values =>
    PageFormat.bandwidth.ReadInPages Bandwidth.ofEntry (ports.map fun port => [port, clear.toUInt8]) sent values
  | .bandwidthOfAll clear, listed =>
    Measured generation clear sent listed
      ∧ (listed.map Prod.fst).Perm ((PortStatus.kept (received (sent.take 1))).map PortStatus.port)
  | .latencies ports clear, values =>
    (PageFormat.latency clear).ReadInPages Latency.ofEntry (ports.map fun port => [port]) sent values
  | .latency egress clear, value =>
    (PageFormat.latency clear).ReadInPages Latency.ofEntry [[egress]] sent [value]
  | .echo _, word | .injectDllp _ _, word | .injectDllpCrc _ _ _, word | .injectTlpLcrc _ _ _, word
  | .injectTlpSequence _, word | .injectNack _ _ _, word | .injectCreditTimeout _, word =>
    word = UInt32.ofNat (received sent).toNat
  | .dieTemperature, temperature => temperature = (UInt32.ofNat (received sent).toNat).toFloat32 / 100
  | .readRegister _ _, (_, value) => value = UInt64.ofNat (received sent).toNat
  | .readSpan _ length, data => data = received sent ∧ data.length = length
  | _, _ => True

namespace Handle

open Operation

variable {h : Handle} {sent : List Sent}

theorem eq_received_of_sends {r : Request} (hfits : r.Fits h.generation) {f : Bytes → α} {value : α}
    (hsends : (h.request r >>= fun reply => pure (f reply)).Sends sent (.ok value))
    : value = f (received sent) ∧ (received sent).length = r.replyLength := by
  obtain ⟨answer, rfl, hanswer⟩ := (sends_request_pure hfits).mp hsends
  cases answer with
  | error e => cases hanswer
  | ok reply =>
    cases hanswer
    rw [received_singleton]
    exact ⟨rfl, Bytes.length_fit _ _⟩

theorem eq_received_of_sends_requestWord {operation : Operation UInt32} {r : Request} {word : UInt32}
    (hrequest : operation = h.requestWord r) (hfixed : r.isFixed = true) (hreply : r.replyLength = 4)
    (hsends : operation.Sends sent (.ok word))
    : word = UInt32.ofNat (received sent).toNat := by
  rw [hrequest] at hsends
  obtain ⟨rfl, hlength⟩ := eq_received_of_sends (Request.fits_of_isFixed hfixed) hsends
  exact Read.read_of_takes Read.takes_u32 (hlength.trans hreply)

theorem eq_received_of_sends_dieTemperature {temperature : Float32}
    (hsends : h.dieTemperature.Sends sent (.ok temperature))
    : temperature = (UInt32.ofNat (received sent).toNat).toFloat32 / 100 := by
  unfold dieTemperature at hsends
  obtain ⟨_, s₁, s₂, rfl, hmeasure, hrest⟩ := sends_bind_ok.mp hsends
  obtain ⟨word, hread, rfl⟩ := sends_bind_pure_ok.mp hrest
  obtain ⟨answer, rfl, hanswer⟩ := (sends_order (Request.fits_of_isFixed rfl)).mp hmeasure
  cases answer with
  | error e => cases hanswer
  | ok reply =>
    -- the reply to the measurement carries nothing
    rw [List.singleton_append, received_cons, eq_received_of_sends_requestWord rfl rfl rfl hread]
    rfl

theorem entries_of_sends_counterSetups {stack : UInt8} {counter count : Nat} {setups : List CounterSetup}
    (hcounters : refuseCounters stack counter count = none)
    (hsends : (h.counterSetups stack counter count).Sends sent (.ok setups))
    : setups = CounterSetup.entries count (received sent) ∧ (received sent).length = 9 * count := by
  obtain ⟨hfits, heq⟩ := counterSetups_of_accepted hcounters
  rw [heq] at hsends
  obtain ⟨rfl, hlength⟩ := eq_received_of_sends hfits hsends
  have hlength : (received sent).length = 9 * count := by
    rw [hlength, Nat.mul_comm]
    exact congrArg (· * 9) (toNat_count_of_accepted hcounters)
  exact ⟨CounterSetup.ofReply_eq_entries hlength, hlength⟩

theorem entries_of_sends_counterValues {stack : UInt8} {counter count : Nat} {clear : Bool}
    {values : List UInt32} (hcounters : refuseCounters stack counter count = none)
    (hsends : (h.counterValues stack counter count clear).Sends sent (.ok values))
    : values = counterValueEntries count (received sent) := by
  obtain ⟨hfits, heq⟩ := counterValues_of_accepted hcounters
  rw [heq] at hsends
  obtain ⟨rfl, hlength⟩ := eq_received_of_sends hfits hsends
  apply counterValuesOfReply_eq_entries
  rw [hlength, Nat.mul_comm]
  exact congrArg (· * 8) (toNat_count_of_accepted hcounters)

theorem entries_of_sends_counters {stack : UInt8} {counter count : Nat} {clear : Bool}
    {pairs : List (CounterSetup × UInt32)} (hcounters : refuseCounters stack counter count = none)
    (hsends : (h.counters stack counter count clear).Sends sent (.ok pairs))
    : pairs.map Prod.fst = CounterSetup.entries count (received sent)
        ∧
      pairs.map Prod.snd = counterValueEntries count ((received sent).drop (9 * count)) := by
  unfold counters at hsends
  obtain ⟨setups, s₁, s₂, rfl, hsetups, hrest⟩ := sends_bind_ok.mp hsends
  obtain ⟨values, hvalues, rfl⟩ := sends_bind_pure_ok.mp hrest
  obtain ⟨rfl, hlength⟩ := entries_of_sends_counterSetups hcounters hsetups
  obtain rfl := entries_of_sends_counterValues hcounters hvalues
  rw [received_append, CounterSetup.entries_append hlength, List.drop_left' hlength, List.map_fst_zip, List.map_snd_zip]
  . exact ⟨rfl, rfl⟩
  . simp [CounterSetup.entries, counterValueEntries]
  . simp [CounterSetup.entries, counterValueEntries]

theorem kept_of_sends_status {statuses : List PortStatus} (hsends : h.status.Sends sent (.ok statuses))
    : statuses.Perm (PortStatus.kept (received sent)) := by
  obtain ⟨rfl, hlength⟩ := eq_received_of_sends Request.fits_linkStatus hsends
  rw [PortStatus.ofReply_eq_mergeSort_kept hlength]
  apply List.mergeSort_perm

theorem entries_of_sends_bindInfo {physical : UInt8} {infos : List BindInfo}
    (hphysical : refusePort physical = none) (hsends : (h.bindInfo physical).Sends sent (.ok infos))
    : infos = BindInfo.entries (received sent) := by
  unfold bindInfo at hsends
  rw [ofExcept_accepted_bind (checkPhysicalPort_eq physical) hphysical] at hsends
  obtain ⟨rfl, hlength⟩ := eq_received_of_sends (Request.fits_of_isFixed rfl) hsends
  exact BindInfo.readReply_eq_entries hlength

theorem kept_of_measured {generation : Generation} {clear : Bool} {listed : List (PortId × Bandwidth)}
    (hmeasured : Measured generation clear sent listed)
    : (listed.map Prod.fst).Perm ((PortStatus.kept (received (sent.take 1))).map PortStatus.port) := by
  obtain ⟨reply, queries, rfl, hports, _⟩ := hmeasured
  have hlength : (reply.fit Request.linkStatus.replyLength).length = 12 * maxPorts := Bytes.length_fit _ _
  rw [hports, PortStatus.ofReply_eq_mergeSort_kept hlength, List.take_succ_cons, List.take_zero, received_singleton]
  exact (List.mergeSort_perm _ _).map _

theorem ports_of_accepted {ports : List UInt8} (hports : refusePorts ports = none)
    : ∀ port ∈ ports, port.toNat < maxPorts := by
  rw [← checkPorts_eq_ok_iff, checkPorts_eq, hports, passUnless]

theorem readInPages_of_sends_latencies {ports : List UInt8} {clear : Bool} {values : List Latency}
    (hports : refusePorts ports = none) (hsends : (h.latencies ports clear).Sends sent (.ok values))
    : (PageFormat.latency clear).ReadInPages Latency.ofEntry (ports.map fun port => [port]) sent values := by
  exact (pages_of_sends_latencies (ports_of_accepted hports) hsends).2 values rfl

theorem readInPages_of_sends_latency {egress : UInt8} {clear : Bool} {value : Latency}
    (hegress : refusePort egress = none) (hsends : (h.latency egress clear).Sends sent (.ok value))
    : (PageFormat.latency clear).ReadInPages Latency.ofEntry [[egress]] sent [value] := by
  obtain ⟨values, hvalues, rfl⟩ := sends_bind_pure_ok.mp hsends
  have hread := readInPages_of_sends_latencies ((refusePorts_singleton egress).trans hegress) hvalues
  -- the last of the values is there, for there is exactly one
  obtain ⟨value, rfl⟩ := List.length_eq_one_iff.mp hread.length_eq
  exact hread

theorem eq_received_of_sends_readBytes (h : Handle) {offset length : Nat} {data : Bytes}
    (hsends : (Tunnelled.readBytes h offset length).Sends sent (.ok data))
    : data = received sent ∧ data.length = length := by
  unfold Tunnelled.readBytes at hsends
  fun_induction spans maxDataLength offset length generalizing sent data with
  | case1 =>
    obtain ⟨rfl, hdata⟩ := sends_pure.mp hsends
    cases hdata
    exact ⟨rfl, rfl⟩
  | case2 => contradiction
  | case3 offset length hsome hsize ih =>
    have hlength : (UInt32.ofNat (min maxDataLength length)).toNat = min maxDataLength length := by
      rw [UInt32.toNat_ofNat']
      apply Nat.mod_eq_of_lt
      unfold maxDataLength
      omega
    rw [Tunnelled.readBytes.go] at hsends
    obtain ⟨first, s₁, s₂, rfl, hfirst, hrest⟩ := sends_bind_ok.mp hsends
    obtain ⟨others, hothers, rfl⟩ := sends_bind_pure_ok.mp hrest
    have hfits := Request.fits_readWindow h.generation offset (Nat.min_le_left maxDataLength length)
    obtain ⟨answer, rfl, hanswer⟩ := (sends_request hfits).mp hfirst
    cases answer with
    | error e => cases hanswer
    | ok reply =>
      cases hanswer
      obtain ⟨hreceived, hcount⟩ := ih hothers
      constructor
      . rw [List.singleton_append, received_cons, ← hreceived]
        rfl
      . rw [List.length_append, Bytes.length_fit, hcount, Request.replyLength, hlength]
        omega

theorem eq_received_of_sends_readRegister {address bytes : Nat} {value : Nat × UInt64}
    (haccepted : refuseRegister address bytes = none)
    (hsends : Operation.Sends (h.window.readRegister address bytes) sent (.ok value))
    : value.2 = UInt64.ofNat (received sent).toNat := by
  obtain ⟨width, rfl, hlocate⟩ := Window.locate_of_accepted haccepted
  unfold Window.readRegister at hsends
  rw [window_size, ofExcept_ok_bind hlocate] at hsends
  obtain ⟨word, hword, rfl⟩ := sends_bind_pure_ok.mp hsends
  obtain ⟨data, hdata, rfl⟩ := sends_bind_pure_ok.mp hword
  rw [(h.eq_received_of_sends_readBytes hdata).1]

theorem eq_received_of_sends_readSpan {address length : Nat} {data : Bytes}
    (haccepted : refuseSpan address length = none)
    (hsends : Operation.Sends (h.window.readSpan address length) sent (.ok data))
    : data = received sent ∧ data.length = length := by
  unfold Window.readSpan at hsends
  rw [window_size, ofExcept_accepted_bind (checkSpan_eq address length) haccepted] at hsends
  exact h.eq_received_of_sends_readBytes hsends

theorem keeps_of_sends {f : Feature α} {value : α} (haccepted : f.refusal? h.generation = none)
    (hsends : (h.perform f).Sends sent (.ok value))
    : f.Keeps h.generation sent value := by
  cases f with
  | echo => exact eq_received_of_sends_requestWord rfl rfl rfl hsends
  | dieTemperature => exact eq_received_of_sends_dieTemperature hsends
  | injectDllp | injectTlpSequence =>
    exact eq_received_of_sends_requestWord (inject_of_accepted haccepted _) rfl rfl hsends
  | injectDllpCrc | injectTlpLcrc | injectNack =>
    exact eq_received_of_sends_requestWord (inject_value_of_accepted haccepted _) rfl rfl hsends
  | injectCreditTimeout =>
    exact eq_received_of_sends_requestWord (injectCreditTimeout_of_accepted haccepted) rfl rfl hsends
  | status => exact kept_of_sends_status hsends
  | bindInfo => exact entries_of_sends_bindInfo haccepted hsends
  | counterSetups => exact (entries_of_sends_counterSetups haccepted hsends).1
  | counterValues => exact entries_of_sends_counterValues haccepted hsends
  | counters => exact entries_of_sends_counters haccepted hsends
  | bandwidth => exact (pages_of_sends_bandwidth (ports_of_accepted haccepted) hsends).2 value rfl
  | bandwidthOfAll => exact ⟨measured_of_sends hsends, kept_of_measured (measured_of_sends hsends)⟩
  | latencies => exact readInPages_of_sends_latencies haccepted hsends
  | latency => exact readInPages_of_sends_latency haccepted hsends
  | readRegister => exact eq_received_of_sends_readRegister haccepted hsends
  | readSpan => exact eq_received_of_sends_readSpan haccepted hsends
  | _ => trivial

theorem passesFailures_of_sends {f : Feature α} {result : Except Error α}
    (hsends : (h.perform f).Sends sent result)
    : (h.perform f).PassesFailures sent result := by
  cases hrefusal : f.refusal? h.generation with
  | some e =>
    rw [h.perform_of_refused hrefusal] at hsends ⊢
    exact passesFailures_throw hsends
  | none => exact (h.chainedFrom_perform hrefusal).chained.passesFailures hsends

theorem keeps_or_refuses_of_sends {f : Feature α} {result : Except Error α}
    (hsends : (h.perform f).Sends sent result) (hok : ∀ y ∈ sent, ∃ reply, y.2 = .ok reply)
    : (∃ value, result = .ok value ∧ f.Keeps h.generation sent value)
        ∨
      ∃ e, result = .error e ∧ e.isArgument = true ∧ (f.refusal? h.generation = some e ∨ f.RaisesLater e) := by
  cases hrefusal : f.refusal? h.generation with
  | some e =>
    rw [h.perform_of_refused hrefusal] at hsends
    exact .inr ⟨e, (sends_throw.mp hsends).2, f.isArgument_of_refusal e hrefusal, .inl rfl⟩
  | none =>
    cases result with
    | ok value => exact .inl ⟨value, rfl, keeps_of_sends hrefusal hsends⟩
    | error e =>
      rcases (h.chainedFrom_perform hrefusal).chained.raises_or_failed hsends with ⟨hraises, _⟩ | ⟨x, hx⟩
      . exact .inr ⟨e, rfl, f.isArgument_of_raisesLater hraises, .inr hraises⟩
      . obtain ⟨reply, hreply⟩ := hok _ hx
        cases hreply

theorem passesFailures_of_sends_send {c : Command} {payload : Bytes} {replyLength : Nat}
    {result : Except Error Bytes} (hsends : (h.send c payload replyLength).Sends sent result)
    : (h.send c payload replyLength).PassesFailures sent result := by
  by_cases hfits : payload.length ≤ maxDataLength ∧ replyLength ≤ maxDataLength
  . have hchained : Chained (fun _ => False) (h.send c payload replyLength) := Chained.send h c hfits.1 hfits.2
    exact hchained.passesFailures hsends
  . rw [send_of_too_large hfits] at hsends ⊢
    exact passesFailures_throw hsends

end Handle

/--
Every operation stops at the first command that fails, and fails with its error. Until then it sends what it
would if no command failed. If none fails, neither does the operation, except for its arguments, and no part of a
reply is lost. The same holds of a command of the caller's own.
-/
theorem failures_are_passed_on (h : Handle) (outside : Handler deviceInterface σ) (s : σ)
    : (∀ {α : Type} (f : Feature α),
        (h.perform f).PassesFailures ((h.perform f).sent outside s) ((h.perform f).result outside s)
          ∧
        ((∀ y ∈ (h.perform f).sent outside s, ∃ reply, y.2 = .ok reply) →
          (∃ value,
            (h.perform f).result outside s = .ok value
              ∧
            f.Keeps h.generation ((h.perform f).sent outside s) value)
            ∨
          ∃ e,
            (h.perform f).result outside s = .error e
              ∧
            e.isArgument = true
              ∧
            (f.refusal? h.generation = some e ∨ f.RaisesLater e)))
        ∧
      ∀ c payload replyLength,
        (h.send c payload replyLength).PassesFailures ((h.send c payload replyLength).sent outside s)
          ((h.send c payload replyLength).result outside s)
          ∧
        (payload.length ≤ maxDataLength → replyLength ≤ maxDataLength →
          (∀ y ∈ (h.send c payload replyLength).sent outside s, ∃ reply, y.2 = .ok reply) →
            (h.send c payload replyLength).result outside s
              = .ok (received ((h.send c payload replyLength).sent outside s))) := by
  constructor
  . intro α f
    have hsends := Operation.sends_sent outside (h.perform f) s
    exact ⟨Handle.passesFailures_of_sends hsends, Handle.keeps_or_refuses_of_sends hsends⟩
  . intro c payload replyLength
    have hsends := Operation.sends_sent outside (h.send c payload replyLength) s
    refine ⟨Handle.passesFailures_of_sends_send hsends, ?_⟩
    intro hpayload hreply hok
    obtain ⟨answer, hsent, hresult⟩ := (Handle.sends_send hpayload hreply).mp hsends
    rw [hsent] at hok ⊢
    obtain ⟨reply, hanswer⟩ := hok _ (List.mem_singleton_self _)
    dsimp only at hanswer
    rw [hresult, hanswer, Operation.received_singleton]
    rfl

open Simulation in
/--
A firmware that fails when the temperature is to be read, after it was measured, and one that tells the setups and the
values of the last two counters of a stack.
-/
theorem second_command_fails
    : let h := Switch.handle {} "switch" 0 .gen4
      let e : Error := .firmware ⟨0xFFFF0001⟩
      let failing : Switch := { commands := .replies [.data [], .failure e] }
      let setups : Bytes := [3, 1, 0, 0, 1, 5, 0, 0, 0, 0x80, 0, 0, 2, 0, 0, 1, 0, 0]
      let values : Bytes := [7, 0, 0, 0, 0, 0, 0, 0, 0, 2, 0, 0, 0, 0, 0, 0]
      let counting : Switch := { commands := .replies [.data setups, .data values] }
      (h.perform .dieTemperature).sent Switch.device failing
          = [(⟨4, [1, 0, 0, 0], 0⟩, .ok [])] ++ (⟨4, [2, 0, 0, 0], 4⟩, .error e) :: []
        ∧
      (h.perform .dieTemperature).result Switch.device failing = .error e
        ∧
      (∀ y ∈ (h.perform (.counters 0 62 2 true)).sent Switch.device counting, ∃ reply, y.2 = .ok reply)
        ∧
      (h.perform (.counters 0 62 2 true)).result Switch.device counting
          = .ok [(⟨3, 1, true, 5⟩, 7), (⟨0x80, 0x20000, false, 256⟩, 512)]
        ∧
      (∀ y ∈ (h.send .echo [1] 1).sent Switch.device {}, ∃ reply, y.2 = .ok reply)
        ∧
      (h.send .echo [1] 1).result Switch.device {} = .ok [0] := by
  intro h e failing setups values counting
  have hfailed : (h.perform .dieTemperature).sent Switch.device failing
      = [(⟨4, [1, 0, 0, 0], 0⟩, .ok [])] ++ (⟨4, [2, 0, 0, 0], 4⟩, .error e) :: [] := by
    rfl
  have hcounted : (h.perform (.counters 0 62 2 true)).sent Switch.device counting
      = [(⟨7, [3, 0, 62, 2, 0], 18⟩, .ok setups), (⟨7, [1, 0, 62, 2, 1], 16⟩, .ok values)] := by
    rfl
  have hechoed : (h.send .echo [1] 1).sent Switch.device {} = [(⟨65, [1], 1⟩, .ok [0])] := by
    rfl
  have hcounters : ∀ y ∈ (h.perform (.counters 0 62 2 true)).sent Switch.device counting, ∃ reply, y.2 = .ok reply := by
    rw [hcounted]
    simp
  have hecho : ∀ y ∈ (h.send .echo [1] 1).sent Switch.device {}, ∃ reply, y.2 = .ok reply := by
    rw [hechoed]
    simp
  refine ⟨hfailed, ?_, hcounters, ?_, hecho, ?_⟩
  . exact (((failures_are_passed_on h Switch.device failing).1 .dieTemperature).1.stops _ _ _ _ hfailed).2
  . rcases ((failures_are_passed_on h Switch.device counting).1 (.counters 0 62 2 true)).2 hcounters with
      ⟨pairs, hresult, hsetups, hvalues⟩ | ⟨_, _, _, hrefusal | hraises⟩
    . have hreceived : received ((h.perform (.counters 0 62 2 true)).sent Switch.device counting) = setups ++ values := by
        rw [hcounted]
        rfl
      rw [hreceived] at hsetups hvalues
      rw [hresult, List.zip_of_prod hsetups hvalues]
      decide
    . cases hrefusal
    . cases hraises
  . rw [((failures_are_passed_on h Switch.device {}).2 .echo [1] 1).2 (by decide) (by decide) hecho, hechoed]
    rfl

end PcieSwitch
