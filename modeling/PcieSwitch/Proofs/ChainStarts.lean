import PcieSwitch.Proofs.Chains
import PcieSwitch.Proofs.PageFormat

/-!
This module contains the starts of chains: which request a chain of commands begins with, and which requests one
command can carry.
-/

namespace PcieSwitch

theorem Request.fits_of_width {generation : Generation} {r : Request}
    (hpayload : ((r.fields generation).map Field.width).sum ≤ maxDataLength)
    (hreply : r.replyLength ≤ maxDataLength)
    : r.Fits generation := by
  constructor
  . unfold payload
    rw [Bytes.length_ofFields]
    exact hpayload
  . exact hreply

def Request.isFixed : Request → Bool
  | .counterSetups .. | .counterValues .. | .bandwidth .. | .selectBandwidth .. | .setupLatency _ | .latency ..
  | .readWindow .. | .writeWindow .. => false
  | _ => true

theorem Request.fits_of_isFixed {generation : Generation} {r : Request} (h : r.isFixed = true)
    : r.Fits generation := by
  apply fits_of_width
  . cases r with
    | counterSetups | counterValues | bandwidth | selectBandwidth | setupLatency | latency | readWindow
    | writeWindow => cases h
    | injectTlpLcrc => cases generation <;> simp [fields, injection, Field.flag, Field.width, maxDataLength]
    | _ =>
      simp [fields, monitor, binding, temperature, injection, CounterSetup.fields, Field.flag, Field.width, setupSlots,
        CounterSetup.wireSize, maxDataLength]
  . cases r with
    | counterSetups | counterValues | bandwidth | selectBandwidth | setupLatency | latency | readWindow
    | writeWindow => cases h
    | _ => exact Nat.le_of_ble_eq_true rfl

namespace Operation

inductive ChainedFrom (Raises : Error → Prop) (h : Handle) : Option Request → Operation α → Prop where
  | nothing (value : α) : ChainedFrom Raises h none (pure value)
  | request (r : Request) (next : Bytes → Operation α) :
    r.Fits h.generation →
      (∀ reply, reply.length = r.replyLength → Chained Raises (next reply)) →
        ChainedFrom Raises h (some r) (h.request r >>= next)

namespace ChainedFrom

variable {Raises : Error → Prop} {h : Handle} {r : Request} {operation : Operation α}

theorem chained {first : Option Request} (hfrom : ChainedFrom Raises h first operation)
    : Chained Raises operation := by
  cases hfrom with
  | nothing value => exact .done value
  | request r next hfits hnext => exact .command h _ _ _ next hfits.1 hfits.2 hnext

theorem bind {f : α → Operation β} (hfrom : ChainedFrom Raises h (some r) operation)
    (hf : ∀ value, Chained Raises (f value))
    : ChainedFrom Raises h (some r) (operation >>= f) := by
  cases hfrom with
  | request r next hfits hnext =>
    rw [bind_assoc]
    apply request r _ hfits
    intro reply hreply
    exact (hnext reply hreply).bind hf

theorem map {first : Option Request} (hfrom : ChainedFrom Raises h first operation) (f : α → β)
    : ChainedFrom Raises h first (operation >>= fun value => pure (f value)) := by
  cases hfrom with
  | nothing value =>
    rw [pure_bind]
    apply nothing
  | request r next hfits hnext =>
    apply (request r next hfits hnext).bind
    intro value
    apply Chained.done

theorem of_fits (hfits : r.Fits h.generation) : ChainedFrom Raises h (some r) (h.request r) := by
  rw [← bind_pure (h.request r)]
  apply request r _ hfits
  intro reply _
  apply Chained.done

theorem order (hfits : r.Fits h.generation) : ChainedFrom Raises h (some r) (h.order r) := by
  apply (of_fits hfits).map fun _ => ()

theorem requestWord (hfits : r.Fits h.generation)
    : ChainedFrom Raises h (some r) (h.requestWord r) := by
  apply (of_fits hfits).map fun reply => reply.read Read.u32

end ChainedFrom

section

variable {Raises : Error → Prop}

theorem Chained.paged {work : List α → Operation (List β)} {pages : List (List α)}
    (hwork : ∀ page ∈ pages, Chained Raises (work page)) : Chained Raises (Operation.paged work pages) := by
  induction pages with
  | nil => apply Chained.done
  | cons page rest ih =>
    obtain ⟨hpage, hrest⟩ := List.forall_mem_cons.mp hwork
    unfold Operation.paged
    apply hpage.bind
    intro results
    apply (ih hrest).bind
    intro others
    apply Chained.done

theorem ChainedFrom.paged {h : Handle} {f : PageFormat} (hf : f.Lawful) {entry : α → Bytes}
    (hentry : ∀ x, (entry x).length = f.entryWidth) {request : List α → Request}
    (hrequest : ∀ page, (request page).exchange h.generation = f.exchange (page.map entry))
    {work : List α → Operation (List β)}
    (hwork : ∀ page, (request page).Fits h.generation →
      ChainedFrom Raises h (some (request page)) (work page))
    (xs : List α) [Decidable (xs = [])]
    : ChainedFrom Raises h (if xs = [] then none else some (request (xs.take f.capacity)))
        (Operation.paged work (pages f.capacity xs)) := by
  have hpages : ∀ page ∈ pages f.capacity xs, ChainedFrom Raises h (some (request page)) (work page) := by
    intro page hpage
    apply hwork
    exact PageFormat.fits_of_mem_pages hf hentry hrequest hpage
  by_cases hxs : xs = []
  . rw [if_pos hxs, hxs, pages_nil]
    apply nothing
  . rw [if_neg hxs]
    rw [pages_cons hf.capacity_pos hxs] at hpages ⊢
    obtain ⟨hpage, hrest⟩ := List.forall_mem_cons.mp hpages
    unfold Operation.paged
    apply hpage.bind
    intro results
    apply Chained.bind
    . apply Chained.paged
      intro page hmem
      exact (hrest page hmem).chained
    . intro others
      apply Chained.done

theorem ChainedFrom.pagedOrders {h : Handle} {f : PageFormat} (hf : f.Lawful) {entry : α → Bytes}
    (hentry : ∀ x, (entry x).length = f.entryWidth) {request : List α → Request}
    (hrequest : ∀ page, (request page).exchange h.generation = f.exchange (page.map entry))
    (xs : List α) [Decidable (xs = [])]
    : ChainedFrom Raises h (if xs = [] then none else some (request (xs.take f.capacity)))
        (Operation.pagedOrders (fun page => h.order (request page)) (pages f.capacity xs)) := by
  rw [pagedOrders_eq_paged]
  apply map
  apply ChainedFrom.paged hf hentry hrequest
  intro page hfits
  apply (order hfits).map

end

end Operation

end PcieSwitch
