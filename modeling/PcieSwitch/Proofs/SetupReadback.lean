import Mathlib.Data.List.Induction
import PcieSwitch.Proofs.Attempt
import PcieSwitch.Proofs.KeptCounters
import PcieSwitch.Proofs.RequestLanguage

/-!
This module contains what is read back of the setups of event counters, on a switch that stores nine bytes for each
counter. A counter keeps the setup that was written to it last, whatever is written to the others.
-/

namespace PcieSwitch

open Program (attempt attempt_bind_of_ok attempt_pure)

theorem Field.exists_encode_u32 {data : Bytes} (h : data.length = 4) : ∃ word, data = (Field.u32 word).encode := by
  refine ⟨UInt32.ofNat data.toNat, ?_⟩
  rw [encode_u32_ofNat, ← h, Bytes.ofNat_toNat]

namespace CounterSetup

theorem setup_stored_mask (s : CounterSetup) : s.stored.setup = { s with typeMask := s.typeMask &&& 0xFFFFFF } := by
  have hstored : s.stored = stored { s with typeMask := s.typeMask &&& 0xFFFFFF } := by
    unfold stored
    simp only [s.fields_mask]
  rw [hstored]
  exact setup_stored s.narrow_mask

theorem exists_fields {data : Bytes} (h : data.length = wireSize)
    : ∃ word egress threshold, data = Bytes.ofFields [.u32 word, .u8 egress, .u32 threshold] := by
  unfold wireSize at h
  obtain ⟨word, hword⟩ := Field.exists_encode_u32 (show (data.take 4).length = 4 by simp [h])
  obtain ⟨egress, hegress⟩ := List.length_eq_one_iff.mp (show ((data.drop 4).take 1).length = 1 by simp [h])
  obtain ⟨threshold, hthreshold⟩ := Field.exists_encode_u32 (show ((data.drop 4).drop 1).length = 4 by simp [h])
  refine ⟨word, egress, threshold, ?_⟩
  calc data
    _ = data.take 4 ++ ((data.drop 4).take 1 ++ (data.drop 4).drop 1) := by
      rw [List.take_append_drop, List.take_append_drop]
    _ = _ := by
      rw [hword, hegress, hthreshold]
      simp

theorem word_of_word (word : UInt32) (egress : Bool) (threshold : UInt32)
    : CounterSetup.word ⟨word.toUInt8, word >>> 8, egress, threshold⟩ = word := by
  apply UInt32.toNat.inj
  have hword := word.toNat_lt
  have hshift : (word >>> 8).toNat = word.toNat / 2 ^ 8 := by
    rw [UInt32.toNat_shiftRight]
    apply Nat.shiftRight_eq_div_pow
  rw [toNat_word, UInt32.toNat_toUInt8, hshift]
  omega

theorem ofFields_read {data : Bytes} (h : data.length = wireSize)
    : Bytes.ofFields (data.read read).fields = data.modify 4 fun egress => if egress = 0 then 0 else 1 := by
  obtain ⟨word, egress, threshold, rfl⟩ := exists_fields h
  have hread : read.Reads [.u32 word, .u8 egress, .u32 threshold]
      ⟨word.toUInt8, word >>> 8, egress != 0, threshold⟩ := by
    apply (Read.reads_u32 word).bind
    apply ((Read.reads_u8 egress).map (· != 0)).bind
    apply (Read.reads_u32 threshold).map
  have hword := word_of_word word (egress != 0) threshold
  have hflag : (egress != 0).toUInt8 = if egress = 0 then 0 else 1 := by
    by_cases hegress : egress = 0
    . rw [hegress]
      rfl
    . rw [if_neg hegress, bne_iff_ne.mpr hegress]
      rfl
  have hlength : (Field.u32 word).encode.length = 4 := Bytes.length_ofNat 4 _
  unfold CounterSetup.word at hword
  rw [hread.read_eq]
  unfold fields
  rw [hword]
  simp only [Bytes.ofFields_cons, Field.encode_u8, Field.encode_flag]
  rw [List.modify_eq_take_drop, List.take_left' hlength, List.drop_left' hlength, hflag]
  rfl

end CounterSetup

inductive CounterOrder where
  | setUp (place : CounterPlace) (setup : CounterSetup)
  | clear (place : CounterPlace)

namespace CounterOrder

def place : CounterOrder → CounterPlace
  | setUp place _ => place
  | clear place => place

def sent : CounterOrder → CounterSetup
  | setUp _ setup => setup
  | clear _ => .cleared

/--
The setup that is read back. Of the kinds only the low 24 bits are kept, and a counter that was cleared has a setup of
zeros.
-/
def leaves : CounterOrder → CounterSetup
  | setUp _ setup => { setup with typeMask := setup.typeMask &&& 0xFFFFFF }
  | clear _ => ⟨0, 0, false, 0⟩

theorem setup_stored (order : CounterOrder) : order.sent.stored.setup = order.leaves := by
  cases order with
  | setUp _ setup => exact setup.setup_stored_mask
  | clear _ => exact CounterSetup.cleared.setup_stored_mask

end CounterOrder

def Handle.carryOut (h : Handle) : CounterOrder → Operation Unit
  | .setUp place setup => h.setupCounter (UInt8.ofNat place.1) place.2 setup
  | .clear place => h.clearCounter (UInt8.ofNat place.1) place.2

namespace CounterBank

def carryOut (bank : CounterBank) (order : CounterOrder) : CounterBank :=
  Function.update bank order.place order.sent.stored

def leftAt (bank : CounterBank) (orders : List CounterOrder) (place : CounterPlace) : CounterSetup :=
  match orders.reverse.find? (·.place = place) with
  | some order => order.leaves
  | none => (bank place).setup

theorem setup_foldl_carryOut (bank : CounterBank) (orders : List CounterOrder) (place : CounterPlace)
    : (orders.foldl carryOut bank place).setup = bank.leftAt orders place := by
  induction orders using List.reverseRecOn with
  | nil => rfl
  | append_singleton orders order ih =>
    unfold leftAt
    rw [List.foldl_concat, List.reverse_concat, List.find?_cons, carryOut]
    by_cases hplace : order.place = place
    . rw [← hplace, Function.update_self, order.setup_stored]
      simp
    . rw [Function.update_of_ne (Ne.symm hplace), ih]
      simp [hplace, leftAt]

theorem setupsFrom_eq_ofFn (bank : CounterBank) (place : CounterPlace) {count : Nat}
    (h : place.2 + count ≤ maxEventCounters)
    : bank.setupsFrom place.1 place.2 count
        =
      List.ofFn fun i : Fin count => (bank (place.1, ⟨place.2 + i, by omega⟩)).setup := by
  unfold setupsFrom
  apply List.ext_getElem
  . simp
    omega
  . intro i _ _
    simp

end CounterBank

/--
The switch outside stores a setup for each of its counters, and a query is answered with what is stored.
-/
structure Handler.StoresSetups (outside : Handler deviceInterface σ) (bank : σ → CounterBank) : Prop where
  setup : ∀ place b s, ∃ reply s',
    outside (.exchange (.counterSetup place b)) s = (.ok reply, s') ∧ bank s' = Function.update (bank s) place b
  query : ∀ stack first count s, first + count ≤ maxEventCounters → ∃ s',
    outside (.exchange (.counterQuery stack first count)) s = (.ok ((bank s).entries stack first count), s')
      ∧
    bank s' = bank s
  log : ∀ line s, bank (outside (.log line) s).2 = bank s

theorem Handler.KeepsCounters.storesSetups {outside : Handler sessionInterface σ} {bank : σ → CounterBank}
    (h : outside.KeepsCounters bank) : Handler.StoresSetups (fun c => outside (.device c)) bank where
  setup := h.setup
  query := h.query
  log line s := h.other (.device (.log line)) s ⟨rfl, rfl⟩ fun x hx => by cases hx

namespace Handler.StoresSetups

variable {outside : Handler deviceInterface σ} {bank : σ → CounterBank} (hstores : outside.StoresSetups bank)
include hstores

theorem attempt_carryOut (h : Handle) (order : CounterOrder) (s : σ)
    : ∃ s', attempt outside (h.carryOut order) s = (.ok (), s') ∧ bank s' = (bank s).carryOut order := by
  have haccepted : refuseCounters (UInt8.ofNat order.place.1) order.place.2 0 = none :=
    refuseCounters_of_le order.place.2.isLt (Nat.le_of_lt order.place.2.isLt)
  have hsetup : h.carryOut order = h.setupCounter (UInt8.ofNat order.place.1) order.place.2 order.sent := by
    cases order <;> rfl
  have hanswers : ∀ line, ∃ reply s',
      outside (.exchange (.counterSetup order.place order.sent.stored)) (outside (.log line) s).2 = (.ok reply, s')
        ∧
      bank s' = (bank s).carryOut order := by
    intro line
    rw [← hstores.log line s]
    apply hstores.setup
  obtain ⟨reply, s', hrequest, hbank⟩ := Handle.attempt_request_of_answers
    (Request.exchange_setupCounter h.generation order.place order.sent) (Request.fits_of_isFixed rfl) hanswers
  refine ⟨s', ?_, hbank⟩
  rw [hsetup]
  unfold Handle.setupCounter
  rw [Operation.ofExcept_accepted_bind (checkCounters_eq _ _ _) haccepted]
  exact attempt_bind_of_ok hrequest

theorem attempt_forM_carryOut (h : Handle) (orders : List CounterOrder) (s : σ)
    : ∃ s', attempt outside (forM orders h.carryOut) s = (.ok (), s')
        ∧
      bank s' = orders.foldl CounterBank.carryOut (bank s) := by
  induction orders generalizing s with
  | nil => exact ⟨s, attempt_pure (), rfl⟩
  | cons order orders ih =>
    obtain ⟨s₁, hfirst, hbank⟩ := hstores.attempt_carryOut h order s
    obtain ⟨s₂, hrest, hrestBank⟩ := ih s₁
    refine ⟨s₂, ?_, ?_⟩
    . rw [List.forM_cons, attempt_bind_of_ok hfirst, hrest]
    . rw [hrestBank, hbank]
      rfl

theorem attempt_counterSetups (h : Handle) (place : CounterPlace) {count : Nat}
    (hrange : place.2 + count ≤ maxEventCounters) (s : σ)
    : ∃ s', attempt outside (h.counterSetups (UInt8.ofNat place.1) place.2 count) s
        = (.ok ((bank s).setupsFrom place.1 place.2 count), s')
        ∧
      bank s' = bank s := by
  have hanswer : ∀ line, ∃ s',
      outside (.exchange (.counterQuery place.1 place.2 count)) (outside (.log line) s).2
        = (.ok ((bank s).entries place.1 place.2 count), s')
        ∧
      bank s' = bank s := by
    intro line
    rw [← hstores.log line s]
    exact hstores.query _ _ _ _ hrange
  obtain ⟨hfits, heq⟩ := h.counterSetups_of_accepted (refuseCounters_of_le place.2.isLt hrange)
  obtain ⟨s', hrequest, hbank⟩ := Handle.attempt_request_of_answer
    (Request.exchange_counterSetups h.generation place.1 (Nat.le_trans (Nat.le_add_left _ _) hrange)) hfits hanswer
  refine ⟨s', ?_, hbank⟩
  rw [heq, attempt_bind_of_ok hrequest, attempt_pure]
  have hlength := (bank s).length_entries place.1 hrange
  unfold Exchange.counterQuery
  rw [Bytes.fit_eq_self hlength, CounterBank.ofReply_entries _ _ hrange]

end Handler.StoresSetups

/--
On a switch that stores the setups of its counters, orders to valid counters do not fail, and what is read back of each
counter of a range is the last setup that was written to it, with the low 24 bits of its kinds, a setup of zeros if it
was cleared last, or else what nine bytes were stored for it before. To lay out again what was read of nine bytes gives
these bytes, but for the flag, which becomes zero or one.
-/
theorem setups_are_read_back_as_written_last {outside : Handler deviceInterface σ} {bank : σ → CounterBank}
    (hstores : outside.StoresSetups bank) (h : Handle) (orders : List CounterOrder) (place : CounterPlace) {count : Nat}
    (hrange : place.2 + count ≤ maxEventCounters) (s : σ)
    : Operation.result outside (do
          forM orders h.carryOut
          h.counterSetups (UInt8.ofNat place.1) place.2 count) s
        = .ok (List.ofFn fun i : Fin count => (bank s).leftAt orders (place.1, ⟨place.2 + i, by omega⟩))
        ∧
      ∀ data : Bytes, data.length = CounterSetup.wireSize →
        Bytes.ofFields (data.read CounterSetup.read).fields
          = data.modify 4 fun egress => if egress = 0 then 0 else 1 := by
  refine ⟨?_, fun data hdata => CounterSetup.ofFields_read hdata⟩
  obtain ⟨s₁, horders, hbank⟩ := hstores.attempt_forM_carryOut h orders s
  obtain ⟨s₂, hread, _⟩ := hstores.attempt_counterSetups h place hrange s₁
  rw [hbank, CounterBank.setupsFrom_eq_ofFn _ _ hrange] at hread
  simp only [CounterBank.setup_foldl_carryOut] at hread
  change (attempt outside _ s).1 = _
  rw [attempt_bind_of_ok horders, hread]

/--
The first of four counters is set up with kinds that do not fit on the wire, the second is set up twice, the third is
cleared, and the fourth has a flag of seven from before.
-/
theorem last_setups_of_four_counters
    : let h : Handle := { name := "switch", partition := 0, generation := .gen4 }
      let place (counter : Fin maxEventCounters) : CounterPlace := (⟨7, by decide⟩, counter)
      let before : StoredSetup := ⟨[1, 0xFF, 0, 0x80, 7, 9, 0, 0, 1], by decide⟩
      let orders : List CounterOrder := [
        .setUp (place ⟨60, by decide⟩) ⟨255, 0xFF000003, true, 5⟩,
        .setUp (place ⟨61, by decide⟩) ⟨1, 2, false, 3⟩,
        .setUp (place ⟨62, by decide⟩) ⟨4, 5, true, 6⟩,
        .clear (place ⟨62, by decide⟩),
        .setUp (place ⟨61, by decide⟩) ⟨0x80, 0xFFFFFFFF, false, 0xFFFFFFFF⟩
      ]
      Handler.StoresSetups (fun c => CounterBank.board (.device c)) id
        ∧
      60 + 4 ≤ maxEventCounters
        ∧
      Operation.result (fun c => CounterBank.board (.device c)) (do
          forM orders h.carryOut
          h.counterSetups 7 60 4) (fun _ => before)
        = .ok [⟨255, 3, true, 5⟩, ⟨0x80, 0xFFFFFF, false, 0xFFFFFFFF⟩, .cleared, ⟨1, 0x8000FF, true, 0x1000009⟩]
        ∧
      Bytes.ofFields before.setup.fields = [1, 0xFF, 0, 0x80, 1, 9, 0, 0, 1] := by
  intro h place before orders
  have hstores := CounterBank.keepsCounters_board.storesSetups
  obtain ⟨hread, hbytes⟩ := setups_are_read_back_as_written_last hstores h orders (place ⟨60, by decide⟩)
    (show 60 + 4 ≤ maxEventCounters by decide) fun _ => before
  refine ⟨hstores, by decide, ?_, ?_⟩
  . apply Eq.trans hread
    decide +kernel
  . exact hbytes before.data before.length_data

end PcieSwitch
