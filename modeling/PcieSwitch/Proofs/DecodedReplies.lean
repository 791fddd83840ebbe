import PcieSwitch.Proofs.FeatureChains
import PcieSwitch.Proofs.ReplyReading

/-!
This module contains the replies that operations read entries from. An operation's result is made of the entries of the
replies to its requests, and these are read from the start of a reply up to its end, or up to the last of the entries that
the reply announces, and never from behind it.
-/

namespace PcieSwitch

structure ReplyForm (β : Type) where
  request : Request
  entries : Read (List β)
  steps : Bytes → List ReadStep

namespace ReplyForm

def row (request : Request) (count : Nat) (item : Read β) (steps : List ReadStep) : ReplyForm β where
  request
  entries := Read.times count item
  steps _ := Read.entrySteps count steps

def counterSetups (stack : UInt8) (counter count : Nat) : ReplyForm CounterSetup :=
  row (.counterSetups stack (UInt8.ofNat counter) (UInt8.ofNat count)) count CounterSetup.read [.u32, .u8, .u32]

def counterValues (stack : UInt8) (counter count : Nat) (clear : Bool) : ReplyForm UInt32 :=
  row (.counterValues stack (UInt8.ofNat counter) (UInt8.ofNat count) clear) count readCounterValue [.u32, .skip 4]

def bandwidth (clear : Bool) (ports : List UInt8) : ReplyForm Bandwidth :=
  row (.bandwidth ports clear) ports.length Bandwidth.read (List.replicate 7 .u64)

def latency (clear : Bool) (ports : List UInt8) : ReplyForm Latency :=
  row (.latency ports clear) ports.length Latency.read [.u16, .u16]

def linkStatus : ReplyForm (Option PortStatus) :=
  row .linkStatus maxPorts PortStatus.read (List.replicate 8 .u8 ++ [.u16, .skip 2])

def bindInfo (physical : UInt8) : ReplyForm BindInfo where
  request := .bindInfo physical
  entries := BindInfo.readReply
  steps reply :=
    .u8 :: .skip 3 :: Read.entrySteps (min (reply.getD 0 0).toNat maxPhysicalPorts) (List.replicate 4 .u8)

structure ReadInside (form : ReplyForm β) (stop : Bytes → Nat) : Prop where
  inside : ∀ reply, reply.length = form.request.replyLength → form.entries.Inside reply (form.steps reply)
  position_eq : ∀ reply, reply.length = form.request.replyLength →
    (form.entries (Cursor.start reply)).2.position = stop reply
  stop_le : ∀ reply, reply.length = form.request.replyLength → stop reply ≤ reply.length

theorem readInside_of_takesSteps {form : ReplyForm β} {stop : Bytes → Nat}
    (h : ∀ reply, reply.length = form.request.replyLength →
      form.entries.TakesSteps (Cursor.start reply) (form.steps reply)
        ∧
      ReadStep.widthOf (form.steps reply) = stop reply
        ∧
      stop reply ≤ reply.length)
    : form.ReadInside stop := by
  constructor
  case inside =>
    intro reply hreply
    obtain ⟨hsteps, hwidth, hstop⟩ := h reply hreply
    apply hsteps.inside
    rw [hwidth]
    exact hstop
  case position_eq =>
    intro reply hreply
    obtain ⟨hsteps, hwidth, _⟩ := h reply hreply
    rw [hsteps.cursor_eq, hwidth]
    apply Nat.zero_add
  case stop_le =>
    intro reply hreply
    exact (h reply hreply).2.2

theorem readInside_row {request : Request} {count : Nat} {item : Read β} {steps : List ReadStep}
    (hitem : item.HasSteps steps) (hreply : request.replyLength = count * ReadStep.widthOf steps)
    : (row request count item steps).ReadInside List.length := by
  apply readInside_of_takesSteps
  intro reply hlength
  refine ⟨hitem.times count _, ?_, Nat.le_refl _⟩
  rw [hlength]
  exact (Read.widthOf_entrySteps count steps).trans hreply.symm

theorem readInside_bindInfo (physical : UInt8)
    : (bindInfo physical).ReadInside fun reply => 4 + 4 * min (reply.getD 0 0).toNat 48 := by
  apply readInside_of_takesSteps
  intro reply hlength
  refine ⟨BindInfo.takesSteps_readReply reply, ?_, ?_⟩
  . change 1 + (3 + ReadStep.widthOf (Read.entrySteps _ _)) = _
    rw [Read.widthOf_entrySteps]
    change 1 + (3 + min _ 48 * 4) = _
    omega
  . have hlength : reply.length = 196 := hlength
    omega

end ReplyForm

inductive Answered (generation : Generation)
    : List (ReplyForm β) → List Sent → Except Error (List β) → Prop where
  | done : Answered generation [] [] (.ok [])
  | failed (form : ReplyForm β) (forms : List (ReplyForm β)) (e : Error) :
    Answered generation (form :: forms) [(form.request.exchange generation, .error e)] (.error e)
  | next (form : ReplyForm β) (reply : Bytes) :
    Answered generation forms sent entries →
      Answered generation (form :: forms) ((form.request.exchange generation, .ok reply) :: sent)
        (entries.map ((reply.fit form.request.replyLength).read form.entries ++ ·))

theorem answered_singleton {generation : Generation} {form : ReplyForm β} {sent : List Sent}
    {entries : Except Error (List β)}
    : Answered generation [form] sent entries
        ↔
      ∃ answer,
        sent = [(form.request.exchange generation, answer)]
          ∧
        entries = answer.map fun reply => (reply.fit form.request.replyLength).read form.entries := by
  constructor
  . intro h
    cases h with
    | failed _ _ e => exact ⟨.error e, rfl, rfl⟩
    | next _ reply hrest =>
      cases hrest
      exact ⟨.ok reply, rfl, congrArg Except.ok (List.append_nil _)⟩
  . rintro ⟨answer, rfl, rfl⟩
    cases answer with
    | error e => exact .failed form [] e
    | ok reply =>
      have hanswered : Answered generation [form] _ _ := .next form reply .done
      dsimp only [Except.map] at hanswered
      rw [List.append_nil] at hanswered
      exact hanswered

namespace Operation

/--
An operation sends the requests for some replies and nothing else, its result is a view of their entries, and each reply
is read inside of it, from its start to `stop`.
-/
structure ReadsInside (operation : Operation α) (generation : Generation) (forms : List (ReplyForm β))
    (view : List β → α) (stop : Bytes → Nat) : Prop where
  sends_iff : ∀ sent result,
    operation.Sends sent result ↔ ∃ entries, Answered generation forms sent entries ∧ result = entries.map view
  readInside : ∀ form ∈ forms, form.ReadInside stop

variable {h : Handle} {stop : Bytes → Nat}

theorem readsInside_of_request {operation : Operation α} (form : ReplyForm β) (view : List β → α)
    (hoperation : operation = h.request form.request >>= fun reply => pure (view (reply.read form.entries)))
    (hfits : form.request.Fits h.generation) (hinside : form.ReadInside stop)
    : operation.ReadsInside h.generation [form] view stop := by
  constructor
  case sends_iff =>
    intro sent result
    rw [hoperation, Handle.sends_request_pure hfits]
    simp only [answered_singleton]
    constructor
    . rintro ⟨answer, hsent, rfl⟩
      exact ⟨_, ⟨answer, hsent, rfl⟩, (except_map_map answer _ view).symm⟩
    . rintro ⟨_, ⟨answer, hsent, rfl⟩, rfl⟩
      exact ⟨answer, hsent, except_map_map answer _ view⟩
  case readInside => exact List.forall_mem_singleton.mpr hinside

theorem sends_paged {form : List α → ReplyForm β} {pages : List (List α)}
    (hfits : ∀ page ∈ pages, (form page).request.Fits h.generation)
    {sent : List Sent} {result : Except Error (List β)}
    : (paged (fun page => do return (← h.request (form page).request).read (form page).entries) pages).Sends sent result
        ↔
      Answered h.generation (pages.map form) sent result := by
  induction pages generalizing sent result with
  | nil =>
    unfold paged
    rw [sends_pure]
    constructor
    . rintro ⟨rfl, rfl⟩
      exact .done
    . rintro ⟨⟩
      exact ⟨rfl, rfl⟩
  | cons page rest ih =>
    obtain ⟨hpage, hrest⟩ := List.forall_mem_cons.mp hfits
    unfold paged
    rw [List.map_cons, sends_bind]
    simp only [Handle.sends_request_pure hpage, sends_bind_pure, ih hrest]
    constructor
    . rintro (⟨e, ⟨answer, rfl, hanswer⟩, rfl⟩ | ⟨_, _, _, rfl, ⟨answer, rfl, hanswer⟩, _, hothers, rfl⟩)
      . cases answer with
        | error e' =>
          cases hanswer
          exact .failed _ _ e
        | ok reply => cases hanswer
      . cases answer with
        | error e => cases hanswer
        | ok reply =>
          cases hanswer
          exact .next _ reply hothers
    . intro hanswered
      cases hanswered with
      | failed _ _ e => exact .inl ⟨e, ⟨.error e, rfl, rfl⟩, rfl⟩
      | next _ reply hothers => exact .inr ⟨_, [_], _, rfl, ⟨.ok reply, rfl, rfl⟩, _, hothers, rfl⟩

theorem readsInside_paged (form : List α → ReplyForm β) {pages : List (List α)}
    (hfits : ∀ page ∈ pages, (form page).request.Fits h.generation) (hinside : ∀ page, (form page).ReadInside stop)
    : (paged (fun page => do return (← h.request (form page).request).read (form page).entries) pages).ReadsInside
        h.generation (pages.map form) id stop := by
  constructor
  case sends_iff =>
    intro sent result
    rw [sends_paged hfits]
    constructor
    . intro hanswered
      refine ⟨result, hanswered, ?_⟩
      cases result <;> rfl
    . rintro ⟨entries, hanswered, rfl⟩
      cases entries <;> exact hanswered
  case readInside =>
    rw [List.forall_mem_map]
    intro page _
    exact hinside page

end Operation

namespace Handle

open Operation

variable {h : Handle}

theorem readsInside_counterSetups {stack : UInt8} {counter count : Nat}
    (hcounters : checkCounters stack counter count = .ok ())
    : (h.counterSetups stack counter count).ReadsInside h.generation [.counterSetups stack counter count] id
        List.length := by
  rw [checkCounters_eq, passUnless_eq_ok_iff] at hcounters
  obtain ⟨hfits, heq⟩ := counterSetups_of_accepted hcounters
  apply readsInside_of_request (.counterSetups stack counter count) id heq hfits
  apply ReplyForm.readInside_row CounterSetup.hasSteps_read
  exact congrArg (· * 9) (toNat_count_of_accepted hcounters)

theorem readsInside_counterValues {stack : UInt8} {counter count : Nat} {clear : Bool}
    (hcounters : checkCounters stack counter count = .ok ())
    : (h.counterValues stack counter count clear).ReadsInside h.generation [.counterValues stack counter count clear] id
        List.length := by
  rw [checkCounters_eq, passUnless_eq_ok_iff] at hcounters
  obtain ⟨hfits, heq⟩ := counterValues_of_accepted hcounters
  apply readsInside_of_request (.counterValues stack counter count clear) id heq hfits
  apply ReplyForm.readInside_row hasSteps_readCounterValue
  exact congrArg (· * 8) (toNat_count_of_accepted hcounters)

theorem readsInside_bandwidth {ports : List UInt8} {clear : Bool} (hports : checkPorts ports = .ok ())
    : (h.bandwidth ports clear).ReadsInside h.generation
        ((pages Bandwidth.portsPerQuery ports).map (.bandwidth clear)) id List.length := by
  unfold bandwidth
  rw [ofExcept_ok_bind hports]
  apply readsInside_paged (.bandwidth clear)
  . intro page hpage
    exact PageFormat.fits_of_mem_pages PageFormat.lawful_bandwidth (fun _ => rfl)
      (fun page => Request.exchange_bandwidth page clear) hpage
  . intro page
    exact ReplyForm.readInside_row Bandwidth.hasSteps_read rfl

theorem readsInside_latencies {ports : List UInt8} {clear : Bool} (hports : checkPorts ports = .ok ())
    : (h.latencies ports clear).ReadsInside h.generation ((pages maxPorts ports).map (.latency clear)) id
        List.length := by
  unfold latencies
  rw [ofExcept_ok_bind hports]
  apply readsInside_paged (.latency clear)
  . intro page hpage
    exact PageFormat.fits_of_mem_pages (PageFormat.lawful_latency clear) (fun _ => rfl)
      (fun page => Request.exchange_latency page clear) hpage
  . intro page
    exact ReplyForm.readInside_row Latency.hasSteps_read rfl

theorem readsInside_status
    : h.status.ReadsInside h.generation [.linkStatus] (fun entries => (entries.filterMap id).mergeSort PortStatus.le)
        List.length := by
  have hinside : ReplyForm.linkStatus.ReadInside List.length := ReplyForm.readInside_row PortStatus.hasSteps_read rfl
  exact readsInside_of_request .linkStatus (fun entries => (entries.filterMap id).mergeSort PortStatus.le) rfl
    Request.fits_linkStatus hinside

theorem readsInside_bindInfo {physical : UInt8} (hphysical : checkPhysicalPort physical = .ok ())
    : (h.bindInfo physical).ReadsInside h.generation [.bindInfo physical] id
        fun reply => 4 + 4 * min (reply.getD 0 0).toNat 48 := by
  unfold bindInfo
  rw [ofExcept_ok_bind hphysical]
  exact readsInside_of_request (.bindInfo physical) id rfl (Request.fits_of_isFixed rfl)
    (ReplyForm.readInside_bindInfo physical)

end Handle

/--
Whatever is replied, the entries that an operation reads are inside of the replies, and the reading stops where the reply
ends. The bindings of a port are as many entries as the first byte of the reply says, but at most one for each physical
port, and the reading stops behind the last of them.
-/
theorem replies_are_read_inside (h : Handle)
    : (∀ stack counter count, checkCounters stack counter count = .ok () →
        (h.counterSetups stack counter count).ReadsInside h.generation [.counterSetups stack counter count] id
          List.length)
        ∧
      (∀ stack counter count clear, checkCounters stack counter count = .ok () →
        (h.counterValues stack counter count clear).ReadsInside h.generation
          [.counterValues stack counter count clear] id List.length)
        ∧
      (∀ ports clear, checkPorts ports = .ok () →
        (h.bandwidth ports clear).ReadsInside h.generation
          ((pages Bandwidth.portsPerQuery ports).map (.bandwidth clear)) id List.length)
        ∧
      (∀ ports clear, checkPorts ports = .ok () →
        (h.latencies ports clear).ReadsInside h.generation ((pages maxPorts ports).map (.latency clear)) id
          List.length)
        ∧
      h.status.ReadsInside h.generation [.linkStatus] (fun entries => (entries.filterMap id).mergeSort PortStatus.le)
        List.length
        ∧
      ∀ physical, checkPhysicalPort physical = .ok () →
        (h.bindInfo physical).ReadsInside h.generation [.bindInfo physical] id
          (fun reply => 4 + 4 * min (reply.getD 0 0).toNat 48)
          ∧
        (ReplyForm.bindInfo physical).request.replyLength = 196 := by
  refine ⟨?_, ?_, ?_, ?_, h.readsInside_status, ?_⟩
  . intro stack counter count hcounters
    exact h.readsInside_counterSetups hcounters
  . intro stack counter count clear hcounters
    exact h.readsInside_counterValues hcounters
  . intro ports clear hports
    exact h.readsInside_bandwidth hports
  . intro ports clear hports
    exact h.readsInside_latencies hports
  . intro physical hphysical
    exact ⟨h.readsInside_bindInfo hphysical, rfl⟩

/--
Three counters up to the last one, seventeen ports, and a port whose reply announces 200 bindings, of which there are 48.
-/
theorem announced_bindings_stop_at_the_last_port
    : let h : Handle := { name := "switch", partition := 0, generation := .gen4 }
      let ports : List UInt8 := List.replicate 17 3
      let reply : Bytes := 200 :: List.replicate 195 7
      checkCounters 7 61 3 = .ok ()
        ∧
      checkPorts ports = .ok ()
        ∧
      checkPhysicalPort 47 = .ok ()
        ∧
      (h.counterSetups 7 61 3).ReadsInside h.generation [.counterSetups 7 61 3] id List.length
        ∧
      (h.counterValues 7 61 3 true).ReadsInside h.generation [.counterValues 7 61 3 true] id List.length
        ∧
      (h.bandwidth ports true).ReadsInside h.generation
        [.bandwidth true (List.replicate 16 3), .bandwidth true [3]] id List.length
        ∧
      (h.latencies ports true).ReadsInside h.generation [.latency true ports] id List.length
        ∧
      (h.bindInfo 47).Sends [((Request.bindInfo 47).exchange .gen4, .ok reply)]
        (.ok (List.replicate 48 ⟨7, 7, 7, .unknown 7⟩))
        ∧
      (BindInfo.readReply (Cursor.start reply)).2.position = 196 := by
  intro h ports reply
  have hcounters : checkCounters 7 61 3 = .ok () := rfl
  have hports : checkPorts ports = .ok () := rfl
  have hphysical : checkPhysicalPort 47 = .ok () := rfl
  have hpages : pages Bandwidth.portsPerQuery ports = [List.replicate 16 3, [3]] := by decide +kernel
  have hpage : pages maxPorts ports = [ports] := by decide +kernel
  have hlength : reply.length = 196 := by decide +kernel
  have hentries : (reply.fit 196).read BindInfo.readReply = List.replicate 48 ⟨7, 7, 7, .unknown 7⟩ := by
    decide +kernel
  have hstop : 4 + 4 * min (reply.getD 0 0).toNat 48 = 196 := by decide +kernel
  clear_value reply
  obtain ⟨hsetups, hvalues, hbandwidth, hlatencies, _, hbindings⟩ := replies_are_read_inside h
  have hqueries := hbandwidth ports true hports
  have hquery := hlatencies ports true hports
  rw [hpages] at hqueries
  rw [hpage] at hquery
  obtain ⟨⟨hsends, hinside⟩, hreplyLength⟩ := hbindings 47 hphysical
  refine ⟨hcounters, hports, hphysical, hsetups 7 61 3 hcounters, hvalues 7 61 3 true hcounters, hqueries, hquery,
    ?_, ?_⟩
  . rw [hsends]
    refine ⟨_, .next (.bindInfo 47) reply .done, ?_⟩
    dsimp only [Except.map]
    rw [hreplyLength, List.append_nil]
    exact congrArg Except.ok hentries.symm
  . have hform := hinside (.bindInfo 47) (List.mem_singleton.mpr rfl)
    exact (hform.position_eq reply (hlength.trans hreplyLength.symm)).trans hstop

end PcieSwitch
