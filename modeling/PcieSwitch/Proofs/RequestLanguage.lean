import PcieSwitch.Proofs.RequestReading
import PcieSwitch.Proofs.TransferLimit

/-!
This module contains the language of requests. All that the operations send belongs to it, and a command of the
language spells one request.
-/

namespace PcieSwitch
namespace Operation

def SendsOnly (P : Exchange → Prop) (operation : Operation α) : Prop :=
  ∀ sent result, operation.Sends sent result → ∀ y ∈ sent, P y.1

namespace SendsOnly

variable {P : Exchange → Prop} {operation : Operation α}

theorem pure (value : α) : SendsOnly P (Pure.pure value) := by
  intro sent result hsends
  rw [(sends_pure.mp hsends).1]
  apply List.forall_mem_nil

theorem throw (e : Error) : SendsOnly P (MonadExcept.throw e : Operation α) := by
  intro sent result hsends
  rw [(sends_throw.mp hsends).1]
  apply List.forall_mem_nil

theorem bind {f : α → Operation β} (h : SendsOnly P operation) (hf : ∀ value, SendsOnly P (f value))
    : SendsOnly P (operation >>= f) := by
  intro sent result hsends
  rcases sends_bind.mp hsends with ⟨e, hfail, _⟩ | ⟨value, s₁, s₂, rfl, hfirst, hrest⟩
  . exact h sent _ hfail
  . rw [List.forall_mem_append]
    exact ⟨h s₁ _ hfirst, hf value s₂ result hrest⟩

theorem map (h : SendsOnly P operation) (f : α → β)
    : SendsOnly P (operation >>= fun value => Pure.pure (f value)) := by
  apply h.bind
  intro value
  apply pure

theorem mono {Q : Exchange → Prop} (h : SendsOnly P operation) (hPQ : ∀ x, P x → Q x) : SendsOnly Q operation := by
  intro sent result hsends y hy
  exact hPQ y.1 (h sent result hsends y hy)

theorem check_bind {check : Except Error β} {f : β → Operation α} (hf : ∀ value, SendsOnly P (f value))
    : SendsOnly P (ofExcept check >>= f) := by
  cases check with
  | ok value => exact hf value
  | error e => apply throw

theorem paged {work : List α → Operation (List β)} {pages : List (List α)}
    (h : ∀ page ∈ pages, SendsOnly P (work page))
    : SendsOnly P (Operation.paged work pages) := by
  induction pages with
  | nil => apply pure
  | cons page pages ih =>
    rw [List.forall_mem_cons] at h
    apply h.1.bind
    intro results
    apply (ih h.2).map

theorem pagedOrders {order : List α → Operation Unit} {pages : List (List α)}
    (h : ∀ page ∈ pages, SendsOnly P (order page))
    : SendsOnly P (Operation.pagedOrders order pages) := by
  induction pages with
  | nil => apply pure
  | cons page pages ih =>
    rw [List.forall_mem_cons] at h
    apply h.1.bind
    intro _
    exact ih h.2

end SendsOnly
end Operation

theorem CounterSetup.fields_mask (s : CounterSetup)
    : fields { s with typeMask := s.typeMask &&& 0xFFFFFF } = s.fields := by
  unfold fields
  rw [UInt32.and_assoc, UInt32.and_self]

theorem CounterSetup.narrow_mask (s : CounterSetup)
    : Narrow { s with typeMask := s.typeMask &&& 0xFFFFFF } := by
  unfold Narrow
  rw [UInt32.toNat_and]
  exact Nat.and_lt_two_pow _ (by decide)

namespace Request

def Spelled (generation : Generation) (x : Exchange) : Prop :=
  ∃ r : Request, r.Emittable ∧ x = r.exchange generation

def SpelledBy (commands : List Command) (generation : Generation) (x : Exchange) : Prop :=
  ∃ r : Request, r.Emittable ∧ r.command ∈ commands ∧ x = r.exchange generation

variable {commands : List Command}

theorem SpelledBy.spelled {generation : Generation} {x : Exchange} (h : SpelledBy commands generation x)
    : Spelled generation x := by
  obtain ⟨r, hr, _, hx⟩ := h
  exact ⟨r, hr, hx⟩

theorem Emittable.spelledBy {r : Request} (h : r.Emittable) (hcommand : r.command ∈ commands) (generation : Generation)
    : SpelledBy commands generation (r.exchange generation) := by
  exact ⟨r, h, hcommand, rfl⟩

theorem spelledBy_setupCounter (hcommand : .performanceMonitor ∈ commands) (generation : Generation)
    (stack counter : UInt8) (setup : CounterSetup)
    : SpelledBy commands generation ((setupCounter stack counter setup).exchange generation) := by
  have hfields := congrArg (fun fields => [.u8 2, .u8 stack, .u8 counter, .u8 1] ++ fields
    ++ [.zeros ((setupSlots - 1) * CounterSetup.wireSize)]) setup.fields_mask.symm
  refine ⟨setupCounter stack counter { setup with typeMask := setup.typeMask &&& 0xFFFFFF }, setup.narrow_mask,
    hcommand, ?_⟩
  exact congrArg (fun fields => Exchange.mk Command.performanceMonitor.id (Bytes.ofFields fields) 0) hfields

end Request

theorem length_of_mem_pages {size : Nat} (hsize : 0 < size) {xs page : List α} (h : page ∈ pages size xs)
    : 1 ≤ page.length ∧ page.length ≤ size := by
  exact ⟨List.length_pos_iff.mpr (ne_nil_of_mem_pages hsize h), length_le_of_mem_pages hsize h⟩

def Feature.commands : Feature α → List Command
  | .echo _ => [.echo]
  | .hardReset => [.reset]
  | .dieTemperature => [.dieTemperature]
  | .status => [.linkStatus]
  | .bindInfo _ | .bind .. | .unbind .. => [.portPartition]
  | .injectDllp .. | .injectDllpCrc .. | .injectTlpLcrc .. | .injectTlpSequence _ | .injectNack ..
  | .injectCreditTimeout _ => [.errorInjection]
  | .setupCounter .. | .clearCounter .. | .counterSetups .. | .counterValues .. | .counters .. | .bandwidth ..
  | .selectBandwidth .. | .setupLatencies _ | .setupLatency .. | .latencies .. | .latency .. => [.performanceMonitor]
  | .bandwidthOfAll _ | .selectBandwidthOfAll _ => [.linkStatus, .performanceMonitor]
  | .readRegister .. | .readSpan .. => [.gasRead]
  | .writeRegister .. => [.gasWrite]

namespace Handle

open Operation Request

variable {h : Handle} {commands : List Command}

theorem sendsOnly_request {r : Request} (hr : SpelledBy commands h.generation (r.exchange h.generation))
    : SendsOnly (SpelledBy commands h.generation) (h.request r) := by
  intro sent result hsends
  by_cases hfits : r.Fits h.generation
  . obtain ⟨answer, rfl, _⟩ := (sends_request hfits).mp hsends
    rw [List.forall_mem_singleton]
    exact hr
  . have hlarge : h.request r = throw _ := send_of_too_large hfits
    rw [hlarge] at hsends
    rw [(sends_throw.mp hsends).1]
    apply List.forall_mem_nil

theorem sendsOnly_order {r : Request} (hr : r.Emittable) (hcommand : r.command ∈ commands)
    : SendsOnly (SpelledBy commands h.generation) (h.order r) := by
  exact (sendsOnly_request (hr.spelledBy hcommand _)).map _

theorem sendsOnly_requestWord {r : Request} (hr : r.Emittable) (hcommand : r.command ∈ commands)
    : SendsOnly (SpelledBy commands h.generation) (h.requestWord r) := by
  exact (sendsOnly_request (hr.spelledBy hcommand _)).map _

theorem sendsOnly_inject {port : UInt8} {r : Request} (hr : r.Emittable) (hcommand : r.command ∈ commands)
    : SendsOnly (SpelledBy commands h.generation) (h.inject port r) := by
  apply SendsOnly.check_bind
  intro _
  exact sendsOnly_requestWord hr hcommand

theorem sendsOnly_status (hcommand : .linkStatus ∈ commands)
    : SendsOnly (SpelledBy commands h.generation) h.status := by
  apply SendsOnly.map
  apply sendsOnly_request
  exact Emittable.spelledBy (by trivial) hcommand _

theorem sendsOnly_readWindow (hcommand : .gasRead ∈ commands) (h : Handle) (offset length : Nat)
    : SendsOnly (SpelledBy commands h.generation) (Tunnelled.readBytes h offset length) := by
  unfold Tunnelled.readBytes
  induction spans maxDataLength offset length with
  | nil => apply SendsOnly.pure
  | cons span rest ih =>
    apply (sendsOnly_request (Emittable.spelledBy (by trivial) hcommand _)).bind
    intro data
    exact ih.map _

theorem sendsOnly_writeWindow (hcommand : .gasWrite ∈ commands) (h : Handle) (offset : Nat) (data : Bytes)
    : SendsOnly (SpelledBy commands h.generation) (Tunnelled.writeBytes h offset data) := by
  have hpieces : ∀ piece ∈ pages Tunnelled.maxWrite data, piece.length ≤ Tunnelled.maxWrite := by
    intro piece hpiece
    exact length_le_of_mem_pages (by decide) hpiece
  unfold Tunnelled.writeBytes Tunnelled.placed
  generalize pages Tunnelled.maxWrite data = pieces at hpieces
  induction pieces generalizing offset with
  | nil => apply SendsOnly.pure
  | cons piece rest ih =>
    rw [List.forall_mem_cons] at hpieces
    have hlength : 8 + piece.length ≤ maxDataLength := Nat.add_le_of_le_sub' (by decide) hpieces.1
    refine SendsOnly.bind (sendsOnly_order ?_ hcommand) ?_
    . exact hlength
    . intro _
      exact ih _ hpieces.2

section

variable (hcommand : .performanceMonitor ∈ commands)
include hcommand

theorem sendsOnly_setupCounter (stack : UInt8) (counter : Nat) (setup : CounterSetup)
    : SendsOnly (SpelledBy commands h.generation) (h.setupCounter stack counter setup) := by
  apply SendsOnly.check_bind
  intro _
  exact (sendsOnly_request (spelledBy_setupCounter hcommand _ _ _ _)).map _

theorem sendsOnly_queryCounters {stack : UInt8} {counter count width : Nat} {r : Request} (hr : r.Emittable)
    (hmonitor : r.command = .performanceMonitor)
    : SendsOnly (SpelledBy commands h.generation) (h.queryCounters stack counter count width r) := by
  rw [← hmonitor] at hcommand
  apply SendsOnly.check_bind
  intro _
  dsimp only
  split
  . refine SendsOnly.bind (SendsOnly.throw _) fun _ => ?_
    exact sendsOnly_request (hr.spelledBy hcommand _)
  . exact sendsOnly_request (hr.spelledBy hcommand _)

section

variable {α : Type} {check : Except Error Unit} {size : Nat} {query : List α → Request}

theorem sendsOnly_pagedQueries {decode : List α → Bytes → List β} (hsize : 0 < size)
    (hquery : ∀ page : List α, 1 ≤ page.length ∧ page.length ≤ size → (query page).Emittable)
    (hmonitor : ∀ page, (query page).command = .performanceMonitor) (xs : List α)
    : SendsOnly (SpelledBy commands h.generation) (do
        ofExcept check
        paged (fun page => do return decode page (← h.request (query page))) (pages size xs)) := by
  apply SendsOnly.check_bind
  intro _
  apply SendsOnly.paged
  intro page hpage
  rw [← hmonitor page] at hcommand
  apply SendsOnly.map
  apply sendsOnly_request
  exact (hquery page (length_of_mem_pages hsize hpage)).spelledBy hcommand _

theorem sendsOnly_pagedOrders (hsize : 0 < size)
    (hquery : ∀ page : List α, 1 ≤ page.length ∧ page.length ≤ size → (query page).Emittable)
    (hmonitor : ∀ page, (query page).command = .performanceMonitor) (xs : List α)
    : SendsOnly (SpelledBy commands h.generation) (do
        ofExcept check
        pagedOrders (fun page => h.order (query page)) (pages size xs)) := by
  apply SendsOnly.check_bind
  intro _
  apply SendsOnly.pagedOrders
  intro page hpage
  rw [← hmonitor page] at hcommand
  exact sendsOnly_order (hquery page (length_of_mem_pages hsize hpage)) hcommand

end

theorem sendsOnly_bandwidth (ports : List UInt8) (clear : Bool)
    : SendsOnly (SpelledBy commands h.generation) (h.bandwidth ports clear) := by
  refine sendsOnly_pagedQueries hcommand (by decide) ?_ (fun _ => rfl) ports
  intro page hpage
  exact hpage

theorem sendsOnly_selectBandwidth (ports : List UInt8) (kind : BandwidthKind)
    : SendsOnly (SpelledBy commands h.generation) (h.selectBandwidth ports kind) := by
  refine sendsOnly_pagedOrders hcommand (by decide) ?_ (fun _ => rfl) ports
  intro page hpage
  exact hpage

theorem sendsOnly_setupLatencies (pairs : List (UInt8 × UInt8))
    : SendsOnly (SpelledBy commands h.generation) (h.setupLatencies pairs) := by
  refine sendsOnly_pagedOrders hcommand (by decide) ?_ (fun _ => rfl) pairs
  intro page hpage
  exact hpage

theorem sendsOnly_latencies (ports : List UInt8) (clear : Bool)
    : SendsOnly (SpelledBy commands h.generation) (h.latencies ports clear) := by
  refine sendsOnly_pagedQueries hcommand (by decide) ?_ (fun _ => rfl) ports
  intro page hpage
  exact hpage

theorem sendsOnly_latency (egress : UInt8) (clear : Bool)
    : SendsOnly (SpelledBy commands h.generation) (h.latency egress clear) := by
  exact (sendsOnly_latencies hcommand [egress] clear).map _

end

theorem sendsOnly_commands (h : Handle) (f : Feature α)
    : SendsOnly (SpelledBy f.commands h.generation) (h.perform f) := by
  have hfirst : ∀ {c : Command} {cs : List Command}, c ∈ c :: cs := List.mem_cons_self
  have hsecond : ∀ {c d : Command}, d ∈ [c, d] := List.mem_cons_of_mem _ List.mem_cons_self
  cases f with
  | echo word => exact sendsOnly_requestWord (by trivial) hfirst
  | hardReset => exact sendsOnly_order (by trivial) hfirst
  | dieTemperature =>
    apply (sendsOnly_order (by trivial) hfirst).bind
    intro _
    exact (sendsOnly_requestWord (by trivial) hfirst).map _
  | status => exact sendsOnly_status hfirst
  | bindInfo physical =>
    apply SendsOnly.check_bind
    intro _
    exact (sendsOnly_request (Emittable.spelledBy (by trivial) hfirst _)).map _
  | bind partition logical physical =>
    apply SendsOnly.check_bind
    intro _
    apply SendsOnly.check_bind
    intro _
    exact sendsOnly_order (by trivial) hfirst
  | unbind partition logical =>
    apply SendsOnly.check_bind
    intro _
    exact sendsOnly_order (by trivial) hfirst
  | injectDllp | injectTlpSequence => exact sendsOnly_inject (by trivial) hfirst
  | injectDllpCrc | injectTlpLcrc | injectNack =>
    apply SendsOnly.check_bind
    intro _
    exact sendsOnly_inject (by trivial) hfirst
  | injectCreditTimeout port =>
    unfold perform injectCreditTimeout
    dsimp only
    split
    . refine SendsOnly.bind (SendsOnly.throw _) fun _ => ?_
      exact sendsOnly_inject (by trivial) hfirst
    . exact sendsOnly_inject (by trivial) hfirst
  | setupCounter => exact sendsOnly_setupCounter hfirst _ _ _
  | clearCounter => exact sendsOnly_setupCounter hfirst _ _ _
  | counterSetups => exact (sendsOnly_queryCounters hfirst (by trivial) rfl).map _
  | counterValues => exact (sendsOnly_queryCounters hfirst (by trivial) rfl).map _
  | counters =>
    apply ((sendsOnly_queryCounters hfirst (by trivial) rfl).map _).bind
    intro setups
    exact ((sendsOnly_queryCounters hfirst (by trivial) rfl).map _).map _
  | bandwidth => exact sendsOnly_bandwidth hfirst _ _
  | bandwidthOfAll =>
    apply (sendsOnly_status hfirst).bind
    intro statuses
    exact (sendsOnly_bandwidth hsecond _ _).map _
  | selectBandwidth => exact sendsOnly_selectBandwidth hfirst _ _
  | selectBandwidthOfAll =>
    apply (sendsOnly_status hfirst).bind
    intro statuses
    exact sendsOnly_selectBandwidth hsecond _ _
  | setupLatencies => exact sendsOnly_setupLatencies hfirst _
  | setupLatency egress ingress clear =>
    apply (sendsOnly_setupLatencies hfirst _).bind
    intro _
    split
    . exact (sendsOnly_latency hfirst _ _).map _
    . apply SendsOnly.pure
  | latencies => exact sendsOnly_latencies hfirst _ _
  | latency => exact sendsOnly_latency hfirst _ _
  | readRegister address bytes =>
    apply SendsOnly.check_bind
    intro place
    exact ((sendsOnly_readWindow hfirst h _ _).map _).map _
  | writeRegister address bytes value =>
    apply SendsOnly.check_bind
    intro place
    exact (sendsOnly_writeWindow hfirst h _ _).map _
  | readSpan address length =>
    apply SendsOnly.check_bind
    intro _
    exact sendsOnly_readWindow hfirst h _ _

theorem sendsOnly_perform (h : Handle) (f : Feature α) : SendsOnly (Spelled h.generation) (h.perform f) := by
  exact (h.sendsOnly_commands f).mono fun _ => SpelledBy.spelled

theorem sendsOnly_readBytes (h : Handle) (offset length : Nat)
    : SendsOnly (Spelled h.generation) (Tunnelled.readBytes h offset length) := by
  exact (sendsOnly_readWindow (List.mem_singleton_self _) h offset length).mono fun _ => SpelledBy.spelled

theorem sendsOnly_writeBytes (h : Handle) (offset : Nat) (data : Bytes)
    : SendsOnly (Spelled h.generation) (Tunnelled.writeBytes h offset data) := by
  exact (sendsOnly_writeWindow (List.mem_singleton_self _) h offset data).mono fun _ => SpelledBy.spelled

end Handle

theorem checkCounters_keeps {stack : UInt8} {counter count : Nat} (h : checkCounters stack counter count = .ok ())
    : (UInt8.ofNat counter).toNat = counter ∧ (UInt8.ofNat count).toNat = count := by
  have hmax : maxEventCounters < 256 ∧ maxEventCounters < maxWord := by decide
  unfold checkCounters at h
  obtain ⟨_, _, h⟩ := bind_eq_ok_iff.mp h
  dsimp only at h
  split at h
  . constructor <;> apply UInt8.toNat_ofNat_of_lt' <;> change _ < 256 <;> omega
  . cases h

theorem Window.checkSpan_keeps {address length : Nat} (h : checkSpan windowSize address length = .ok ())
    : ∀ place ≤ address + length, (UInt32.ofNat place).toNat = place := by
  have hsize : windowSize < 2 ^ 32 := by decide
  intro place hplace
  rw [checkSpan_eq_ok_iff] at h
  apply UInt32.toNat_ofNat_of_lt'
  exact Nat.lt_of_le_of_lt (Nat.le_trans hplace h) hsize

/--
A command that carries a request spells that request and no other one. All that the operations send are commands
of this kind, and a number that passes the check of its range fits the field that it is sent in.
-/
theorem requests_are_uniquely_decodable (h : Handle)
    : (∀ r : Request, r.Emittable →
        Request.ofWire? h.generation r.command.id (r.payload h.generation) = some r)
        ∧
      (∀ r r' : Request, r.Emittable → r'.Emittable → r.command.id = r'.command.id →
        r.payload h.generation = r'.payload h.generation → r = r')
        ∧
      (∀ {σ : Type} (outside : Handler deviceInterface σ) (s : σ),
        (∀ {α : Type} (f : Feature α), ∀ y ∈ (h.perform f).sent outside s, Request.Spelled h.generation y.1)
          ∧
        (∀ offset length,
          ∀ y ∈ (Tunnelled.readBytes h offset length).sent outside s, Request.Spelled h.generation y.1)
          ∧
        ∀ offset data,
          ∀ y ∈ (Tunnelled.writeBytes h offset data).sent outside s, Request.Spelled h.generation y.1)
        ∧
      (∀ stack counter count, checkCounters stack counter count = .ok () →
        (UInt8.ofNat counter).toNat = counter ∧ (UInt8.ofNat count).toNat = count)
        ∧
      ∀ address length, Window.checkSpan h.window.size address length = .ok () →
        ∀ place ≤ address + length, (UInt32.ofNat place).toNat = place := by
  refine ⟨?_, ?_, ?_, ?_, ?_⟩
  . intro r hr
    exact Request.ofWire?_payload h.generation hr
  . intro r r' hr hr' hcommand hpayload
    have hread := Request.ofWire?_payload h.generation hr
    rw [hcommand, hpayload, Request.ofWire?_payload h.generation hr'] at hread
    exact (Option.some.inj hread).symm
  . intro σ outside s
    refine ⟨?_, ?_, ?_⟩
    . intro α f
      exact h.sendsOnly_perform f _ _ (Operation.sends_sent outside _ s)
    . intro offset length
      exact h.sendsOnly_readBytes offset length _ _ (Operation.sends_sent outside _ s)
    . intro offset data
      exact h.sendsOnly_writeBytes offset data _ _ (Operation.sends_sent outside _ s)
  . intro stack counter count
    exact checkCounters_keeps
  . intro address length
    exact Window.checkSpan_keeps

open Simulation in
/--
A setup of all kinds is read back. One that names a kind more is sent without it.
-/
theorem setup_of_all_kinds_is_read_back
    : let h := Switch.handle {} "switch" 0 .gen5
      let all : Request := .setupCounter 7 63 ⟨255, 0xFFFFFF, true, 9⟩
      let sent : List Sent :=
        (h.perform (.setupCounter 7 63 ⟨255, 0x1FFFFFF, true, 9⟩)).sent Switch.device {}
      Request.ofWire? h.generation all.command.id (all.payload h.generation) = some all
        ∧
      (∀ r : Request, r.Emittable → r.command.id = all.command.id → r.payload h.generation = all.payload h.generation →
        r = all)
        ∧
      (sent.map Prod.fst = [all.exchange h.generation] ∧ ∀ y ∈ sent, Request.Spelled h.generation y.1)
        ∧
      ((UInt8.ofNat 63).toNat = 63 ∧ (UInt8.ofNat 1).toNat = 1)
        ∧
      (UInt32.ofNat 0x3FFFFC).toNat = 0x3FFFFC := by
  intro h all sent
  obtain ⟨hread, hinjective, hsent, hcounters, hspan⟩ := requests_are_uniquely_decodable h
  have hall : all.Emittable := by
    change (0xFFFFFF : UInt32).toNat < 2 ^ 24
    decide
  refine ⟨hread all hall, ?_, ⟨by decide +kernel, ?_⟩, ?_, ?_⟩
  . intro r hr hcommand hpayload
    exact hinjective r all hr hall hcommand hpayload
  . exact (hsent Switch.device {}).1 _
  . exact hcounters 7 63 1 (by rfl)
  . exact hspan 0x3FFFFC 4 (by rfl) 0x3FFFFC (by omega)

end PcieSwitch
