import PcieSwitch.Proofs.Layout
import PcieSwitch.Proofs.Paging

/-!
This module contains the form of the commands that carry a page of entries: an operation of the performance
monitor, the number of entries, options for all of them, and the entries. `SentInPages` says of a sequence of
such commands that it carries a list without loss, without repetition and in order.
-/

namespace PcieSwitch

structure PageFormat where
  operation : UInt8
  options : Bytes
  capacity : Nat
  entryWidth : Nat
  replyWidth : Nat

namespace PageFormat

def exchange (f : PageFormat) (entries : List Bytes) : Exchange where
  command := Command.performanceMonitor.id
  payload := f.operation :: UInt8.ofNat entries.length :: (f.options ++ entries.flatten)
  replyLength := f.replyWidth * entries.length

def carried (f : PageFormat) (x : Exchange) : List Bytes :=
  pages f.entryWidth (x.payload.drop (2 + f.options.length))

/--
Entries have a width, their number fits the byte that announces it, and a full page fits a command.
-/
structure Lawful (f : PageFormat) : Prop where
  entryWidth_pos : 0 < f.entryWidth
  capacity_pos : 0 < f.capacity
  capacity_lt : f.capacity < 256
  payload_fits : 2 + f.options.length + f.entryWidth * f.capacity ≤ maxDataLength
  reply_fits : f.replyWidth * f.capacity ≤ maxDataLength

/--
A list of entries was sent in pages. The commands carry it from its start on; they carry all of it if the
result is no error, and else all up to and including the page whose command failed.
-/
structure SentInPages (f : PageFormat) (entries : List Bytes) (sent : List Sent)
    (result : Except Error α) : Prop where
  command : ∀ y ∈ sent, y.1.command = Command.performanceMonitor.id
  operation : ∀ y ∈ sent, y.1.payload[0]? = some f.operation
  announced : ∀ y ∈ sent, y.1.payload[1]?.map UInt8.toNat = some (f.carried y.1).length
  options : ∀ y ∈ sent, (y.1.payload.drop 2).take f.options.length = f.options
  replyLength : ∀ y ∈ sent, y.1.replyLength = f.replyWidth * (f.carried y.1).length
  ne_nil : ∀ y ∈ sent, f.carried y.1 ≠ []
  nothing : entries = [] → sent = []
  full : ∀ i y, sent[i]? = some y →
    (f.carried y.1).length = f.capacity ∨ entries.length ≤ f.capacity * i + (f.carried y.1).length
  inOrder : sent.flatMap (fun y => f.carried y.1) = entries.take (f.capacity * sent.length)
  complete : ∀ value, result = .ok value →
    sent.flatMap (fun y => f.carried y.1) = entries ∧ ∀ y ∈ sent, ∃ reply, y.2 = .ok reply
  failed : ∀ e, result = .error e →
    ∃ before x, sent = before ++ [(x, .error e)] ∧ ∀ y ∈ before, ∃ reply, y.2 = .ok reply

/--
There is one value for each entry. It is read from the reply to the command that carries the entry, at the
entry's place in that command.
-/
structure ReadInPages (f : PageFormat) (item : Bytes → β) (entries : List Bytes) (sent : List Sent)
    (values : List β) : Prop where
  length_eq : values.length = entries.length
  value_eq : ∀ i, i < entries.length → ∃ x reply,
    sent[i / f.capacity]? = some (x, .ok reply)
      ∧
    (f.carried x)[i % f.capacity]? = entries[i]?
      ∧
    values[i]? = some (item (Read.entry f.replyWidth (reply.fit x.replyLength) (i % f.capacity)))

variable {f : PageFormat}

theorem SentInPages.map {entries : List Bytes} {sent : List Sent} {result : Except Error α}
    (h : f.SentInPages entries sent result) (g : α → β)
    : f.SentInPages entries sent (result.map g) := by
  cases result with
  | ok value => exact { h with complete := fun _ _ => h.complete value rfl, failed := by nofun }
  | error e => exact { h with complete := by nofun, failed := fun e' he => h.failed e' (by cases he; rfl) }

theorem flatten_drop_exchange (f : PageFormat) (entries : List Bytes)
    : (f.exchange entries).payload.drop (2 + f.options.length) = entries.flatten := by
  unfold exchange
  rw [Nat.add_comm]
  simp only [List.drop_succ_cons, List.drop_left]

theorem carried_exchange (hf : f.Lawful) {entries : List Bytes}
    (hwidth : ∀ entry ∈ entries, entry.length = f.entryWidth)
    : f.carried (f.exchange entries) = entries := by
  unfold carried
  rw [flatten_drop_exchange, pages_flatten hf.entryWidth_pos hwidth]

theorem announced_exchange (hf : f.Lawful) {entries : List Bytes} (h : entries.length ≤ f.capacity)
    : (f.exchange entries).payload[1]?.map UInt8.toNat = some entries.length := by
  change some (UInt8.ofNat entries.length).toNat = some entries.length
  rw [UInt8.toNat_ofNat_of_lt' (Nat.lt_of_le_of_lt h hf.capacity_lt)]

theorem carried_page (hf : f.Lawful) {entries page : List Bytes}
    (hwidth : ∀ entry ∈ entries, entry.length = f.entryWidth) (hpage : page ∈ pages f.capacity entries)
    : f.carried (f.exchange page) = page := by
  apply carried_exchange hf
  intro entry hentry
  exact hwidth entry (mem_of_mem_pages hf.capacity_pos hpage hentry)

theorem flatMap_carried (hf : f.Lawful) {entries : List Bytes}
    (hwidth : ∀ entry ∈ entries, entry.length = f.entryWidth) {sent : List Sent}
    {replies : Except Error (List Bytes)}
    (h : Delivered f.exchange (pages f.capacity entries) sent replies)
    : sent.flatMap (fun y => f.carried y.1) = entries.take (f.capacity * sent.length) := by
  rw [← List.flatMap_map, h.map_fst, List.flatMap_map, ← flatten_take_pages hf.capacity_pos]
  rw [List.flatMap_def, List.map_congr_left (g := id), List.map_id]
  intro page hmem
  exact carried_page hf hwidth (List.mem_of_mem_take hmem)

theorem sentInPages_of_delivered (hf : f.Lawful) {entries : List Bytes}
    (hwidth : ∀ entry ∈ entries, entry.length = f.entryWidth) {sent : List Sent}
    {replies : Except Error (List Bytes)}
    (h : Delivered f.exchange (pages f.capacity entries) sent replies)
    : f.SentInPages entries sent replies := by
  have hcapacity := hf.capacity_pos
  constructor
  -- what holds of each command holds of the page that it was made for
  case command | operation =>
    intro y hy
    obtain ⟨page, _, heq⟩ := h.exists_page_of_mem hy
    rw [heq]
    rfl
  case announced =>
    intro y hy
    obtain ⟨page, hmem, heq⟩ := h.exists_page_of_mem hy
    rw [heq, carried_page hf hwidth hmem, announced_exchange hf (length_le_of_mem_pages hcapacity hmem)]
  case options =>
    intro y hy
    obtain ⟨page, _, heq⟩ := h.exists_page_of_mem hy
    rw [heq]
    apply List.take_left
  case replyLength =>
    intro y hy
    obtain ⟨page, hmem, heq⟩ := h.exists_page_of_mem hy
    rw [heq, carried_page hf hwidth hmem]
    rfl
  case ne_nil =>
    intro y hy
    obtain ⟨page, hmem, heq⟩ := h.exists_page_of_mem hy
    rw [heq, carried_page hf hwidth hmem]
    exact ne_nil_of_mem_pages hcapacity hmem
  case nothing =>
    rintro rfl
    have hlength := h.length_le
    rw [pages_nil] at hlength
    exact List.eq_nil_of_length_eq_zero (Nat.le_zero.mp hlength)
  case full =>
    intro i y hy
    obtain ⟨page, hplace, heq⟩ := h.exists_page hy
    rw [heq, carried_page hf hwidth (List.mem_of_getElem? hplace)]
    rw [getElem?_pages hcapacity] at hplace
    split at hplace
    . next hlt =>
      rw [← Option.some.inj hplace, List.length_take, List.length_drop]
      omega
    . contradiction
  case inOrder => exact flatMap_carried hf hwidth h
  case complete =>
    rintro value rfl
    constructor
    . rw [flatMap_carried hf hwidth h, h.length_sent_of_ok, ← flatten_take_pages hcapacity]
      rw [List.take_length, flatten_pages hcapacity]
    . exact h.answered_of_ok
  case failed =>
    rintro e rfl
    exact h.eq_append_of_error

def values (f : PageFormat) (item : Bytes → β) (page : List Bytes) (reply : Bytes) : List β :=
  (List.range page.length).map fun i =>
    item (Read.entry f.replyWidth (reply.fit (f.replyWidth * page.length)) i)

theorem length_values (f : PageFormat) (item : Bytes → β) (page : List Bytes) (reply : Bytes)
    : (f.values item page reply).length = page.length := by
  unfold values
  rw [List.length_map, List.length_range]

theorem readInPages_of_delivered (hf : f.Lawful) (item : Bytes → β) {entries : List Bytes}
    (hwidth : ∀ entry ∈ entries, entry.length = f.entryWidth) {sent : List Sent}
    {replies : List Bytes}
    (h : Delivered f.exchange (pages f.capacity entries) sent (.ok replies))
    : f.ReadInPages item entries sent
        (List.zipWith (f.values item) (pages f.capacity entries) replies).flatten := by
  have hcapacity := hf.capacity_pos
  constructor
  case length_eq =>
    exact length_flatten_zipWith_pages hcapacity entries replies h.length_of_ok (f.length_values item)
  case value_eq =>
    intro i hi
    obtain ⟨page, reply, hpage, hreply, hlt, hvalue⟩ :=
      getElem?_flatten_zipWith_pages hcapacity entries replies h.length_of_ok (f.length_values item) hi
    have hsnd : (sent.map Prod.snd)[i / f.capacity]? = some (.ok reply) := by
      rw [h.map_snd_of_ok, List.getElem?_map, hreply]
      rfl
    rw [List.getElem?_map] at hsnd
    obtain ⟨y, hy, hanswer⟩ := Option.map_eq_some_iff.mp hsnd
    obtain ⟨other, hother, heq⟩ := h.exists_page hy
    rw [hpage] at hother
    cases hother
    refine ⟨f.exchange page, reply, ?_, ?_, ?_⟩
    . rw [hy, ← heq, ← hanswer]
    . rw [carried_page hf hwidth (List.mem_of_getElem? hpage)]
      rw [getElem?_pages hcapacity] at hpage
      split at hpage
      . rw [← Option.some.inj hpage, List.getElem?_take, List.getElem?_drop, Nat.div_add_mod]
        rw [if_pos (Nat.mod_lt i hcapacity)]
      . contradiction
    . rw [hvalue]
      unfold values
      rw [List.getElem?_map, List.getElem?_range hlt]
      rfl

theorem length_flatten_of_width {width : Nat} {entries : List Bytes}
    (hwidth : ∀ entry ∈ entries, entry.length = width)
    : entries.flatten.length = width * entries.length := by
  induction entries with
  | nil => rfl
  | cons entry entries ih =>
    rw [List.flatten_cons, List.length_append, hwidth entry List.mem_cons_self]
    rw [ih fun other hother => hwidth other (List.mem_cons_of_mem _ hother)]
    rw [List.length_cons, Nat.mul_add_one, Nat.add_comm]

theorem fits_of_exchange_eq (hf : f.Lawful) {generation : Generation} {r : Request}
    {entries : List Bytes} (hwidth : ∀ entry ∈ entries, entry.length = f.entryWidth)
    (hlength : entries.length ≤ f.capacity) (h : r.exchange generation = f.exchange entries)
    : r.Fits generation := by
  have hpayload : r.payload generation = (f.exchange entries).payload := congrArg Exchange.payload h
  have hreply : r.replyLength = f.replyWidth * entries.length := congrArg Exchange.replyLength h
  have hentries : f.entryWidth * entries.length ≤ f.entryWidth * f.capacity :=
    Nat.mul_le_mul_left _ hlength
  have hreplies : f.replyWidth * entries.length ≤ f.replyWidth * f.capacity :=
    Nat.mul_le_mul_left _ hlength
  have hroom := hf.payload_fits
  constructor
  . rw [hpayload]
    unfold exchange
    simp only [List.length_cons, List.length_append, length_flatten_of_width hwidth]
    omega
  . rw [hreply]
    exact Nat.le_trans hreplies hf.reply_fits

section

variable {h : Handle} {request : List α → Request} {entry : α → Bytes}

theorem length_of_mem_map (hentry : ∀ x, (entry x).length = f.entryWidth) (xs : List α)
    : ∀ e ∈ xs.map entry, e.length = f.entryWidth := by
  intro e he
  obtain ⟨x, _, rfl⟩ := List.mem_map.mp he
  exact hentry x

theorem fits_of_mem_pages (hf : f.Lawful) (hentry : ∀ x, (entry x).length = f.entryWidth)
    (hrequest : ∀ page, (request page).exchange h.generation = f.exchange (page.map entry))
    {xs page : List α} (hpage : page ∈ pages f.capacity xs) : (request page).Fits h.generation := by
  apply fits_of_exchange_eq hf (length_of_mem_map hentry page) _ (hrequest page)
  rw [List.length_map]
  exact length_le_of_mem_pages hf.capacity_pos hpage

theorem pages_of_sends_paged (hf : f.Lawful) (hentry : ∀ x, (entry x).length = f.entryWidth)
    (hrequest : ∀ page, (request page).exchange h.generation = f.exchange (page.map entry))
    {item : Bytes → β} {decode : Nat → Bytes → List β}
    (hdecode : ∀ n data, data.length = f.replyWidth * n →
      decode n data = (List.range n).map fun i => item (Read.entry f.replyWidth data i))
    {xs : List α} {sent : List Sent} {result : Except Error (List β)}
    (hsends : (Operation.paged
      (fun page => do return decode page.length (← h.request (request page)))
      (pages f.capacity xs)).Sends sent result)
    : f.SentInPages (xs.map entry) sent result
        ∧
      ∀ values, result = .ok values → f.ReadInPages item (xs.map entry) sent values := by
  have hwidth := length_of_mem_map (f := f) hentry xs
  have hwork : ∀ page ∈ pages f.capacity xs, ∀ {sent result},
      Operation.Sends (do return decode page.length (← h.request (request page))) sent result →
        ∃ answer,
          sent = [(f.exchange (page.map entry), answer)]
            ∧
          result = answer.map (f.values item (page.map entry)) := by
    intro page hpage sent result hsends
    obtain ⟨answer, rfl, rfl⟩ :=
      (Handle.sends_request_pure (fits_of_mem_pages hf hentry hrequest hpage)).mp hsends
    have hreply : (request page).replyLength = f.replyWidth * page.length := by
      rw [← List.length_map entry]
      exact congrArg Exchange.replyLength (hrequest page)
    refine ⟨answer, by rw [hrequest], ?_⟩
    congr 1
    funext reply
    unfold values
    rw [hreply, hdecode _ _ (Bytes.length_fit _ _), List.length_map]
  obtain ⟨replies, hdelivered, rfl⟩ := Operation.delivered_of_sends_paged hwork hsends
  have hpages := hdelivered.of_map
  rw [← pages_map hf.capacity_pos] at hpages
  constructor
  . exact (sentInPages_of_delivered hf hwidth hpages).map _
  . intro values hvalues
    cases replies with
    | error e => cases hvalues
    | ok replies =>
      cases hvalues
      have hread := readInPages_of_delivered hf item hwidth hpages
      rw [pages_map hf.capacity_pos, List.zipWith_map_left] at hread
      exact hread

end

end PageFormat
end PcieSwitch
