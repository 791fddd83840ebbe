import PcieSwitch.Device.Handle
import PcieSwitch.Proofs.Transcript

/-!
This module contains what an operation exchanges with the firmware: its commands and what each one was
answered, in order. `Sends` leaves out all else that an operation asks, such as the lines of the log.
-/

namespace PcieSwitch

abbrev Sent := Exchange × Except Error Bytes

def Entry.sent? : Entry deviceInterface → Option Sent
  | ⟨.exchange x, answer⟩ => some (x, answer)
  | ⟨.event _, _⟩ => none
  | ⟨.now, _⟩ => none
  | ⟨.log _, _⟩ => none

theorem except_map_map (answer : Except ε α) (f : α → β) (g : β → γ)
    : (answer.map f).map g = answer.map fun value => g (f value) := by
  cases answer with
  | error e => rfl
  | ok value => rfl

namespace Operation

/--
An operation can exchange these commands, be given these answers, and end in this result.
-/
def Sends (operation : Operation α) (sent : List Sent) (result : Except Error α) : Prop :=
  ∃ t, operation.run.Yields t result ∧ t.filterMap Entry.sent? = sent

def sent (outside : Handler deviceInterface σ) (operation : Operation α) (state : σ) : List Sent :=
  (operation.run.transcript outside state).filterMap Entry.sent?

def result (outside : Handler deviceInterface σ) (operation : Operation α) (state : σ)
    : Except Error α :=
  (operation.run.run outside state).1

theorem sends_sent (outside : Handler deviceInterface σ) (operation : Operation α) (state : σ)
    : operation.Sends (operation.sent outside state) (operation.result outside state) := by
  exact ⟨_, Program.yields_transcript outside operation.run state, rfl⟩

theorem sends_pure {value : α} {sent : List Sent} {result : Except Error α}
    : (pure value : Operation α).Sends sent result ↔ sent = [] ∧ result = .ok value := by
  unfold Sends
  constructor
  . rintro ⟨t, ht, rfl⟩
    obtain ⟨rfl, rfl⟩ := Program.yields_done.mp ht
    exact ⟨rfl, rfl⟩
  . rintro ⟨rfl, rfl⟩
    exact ⟨[], Program.Yields.done _, rfl⟩

theorem sends_throw {e : Error} {sent : List Sent} {result : Except Error α}
    : (throw e : Operation α).Sends sent result ↔ sent = [] ∧ result = .error e := by
  unfold Sends
  constructor
  . rintro ⟨t, ht, rfl⟩
    obtain ⟨rfl, rfl⟩ := Program.yields_done.mp ht
    exact ⟨rfl, rfl⟩
  . rintro ⟨rfl, rfl⟩
    exact ⟨[], Program.Yields.done _, rfl⟩

theorem sends_bind {operation : Operation α} {f : α → Operation β} {sent : List Sent}
    {result : Except Error β}
    : (operation >>= f).Sends sent result
        ↔
      (∃ e, operation.Sends sent (.error e) ∧ result = .error e) ∨
      (∃ value s₁ s₂, sent = s₁ ++ s₂ ∧ operation.Sends s₁ (.ok value) ∧ (f value).Sends s₂ result)
    := by
  unfold Sends
  constructor
  . rintro ⟨t, ht, rfl⟩
    rcases Program.yields_run_bind.mp ht with ⟨e, h, rfl⟩ | ⟨value, t₁, t₂, rfl, h₁, h₂⟩
    . exact .inl ⟨e, ⟨t, h, rfl⟩, rfl⟩
    . refine .inr ⟨value, _, _, ?_, ⟨t₁, h₁, rfl⟩, ⟨t₂, h₂, rfl⟩⟩
      rw [List.filterMap_append]
  . rintro (⟨e, ⟨t, h, rfl⟩, rfl⟩ | ⟨value, s₁, s₂, rfl, ⟨t₁, h₁, rfl⟩, ⟨t₂, h₂, rfl⟩⟩)
    . exact ⟨t, Program.yields_run_bind.mpr (.inl ⟨e, h, rfl⟩), rfl⟩
    . refine ⟨t₁ ++ t₂, Program.yields_run_bind.mpr (.inr ⟨value, t₁, t₂, rfl, h₁, h₂⟩), ?_⟩
      rw [List.filterMap_append]

theorem sends_bind_pure {operation : Operation α} {f : α → β} {sent : List Sent}
    {result : Except Error β}
    : (operation >>= fun value => pure (f value)).Sends sent result
        ↔
      ∃ answer, operation.Sends sent answer ∧ result = answer.map f := by
  rw [sends_bind]
  constructor
  . rintro (⟨e, h, rfl⟩ | ⟨value, s₁, s₂, rfl, h₁, h₂⟩)
    . exact ⟨.error e, h, rfl⟩
    . obtain ⟨rfl, rfl⟩ := sends_pure.mp h₂
      rw [List.append_nil]
      exact ⟨.ok value, h₁, rfl⟩
  . rintro ⟨answer, h, rfl⟩
    cases answer with
    | error e => exact .inl ⟨e, h, rfl⟩
    | ok value =>
      exact .inr ⟨value, sent, [], (List.append_nil sent).symm, h, sends_pure.mpr ⟨rfl, rfl⟩⟩

theorem sends_bind_ok {operation : Operation α} {f : α → Operation β} {sent : List Sent} {value : β}
    : (operation >>= f).Sends sent (.ok value)
        ↔
      ∃ first s₁ s₂, sent = s₁ ++ s₂ ∧ operation.Sends s₁ (.ok first) ∧ (f first).Sends s₂ (.ok value) := by
  rw [sends_bind]
  constructor
  . rintro (⟨e, _, he⟩ | h)
    . cases he
    . exact h
  . exact .inr

theorem sends_bind_pure_ok {operation : Operation α} {f : α → β} {sent : List Sent} {value : β}
    : (operation >>= fun first => pure (f first)).Sends sent (.ok value)
        ↔
      ∃ first, operation.Sends sent (.ok first) ∧ value = f first := by
  rw [sends_bind_pure]
  constructor
  . rintro ⟨answer, h, heq⟩
    cases answer with
    | error e => cases heq
    | ok first =>
      cases heq
      exact ⟨first, h, rfl⟩
  . rintro ⟨first, h, rfl⟩
    exact ⟨.ok first, h, rfl⟩

theorem sends_ask_bind {c : DeviceCall} {f : c.Answer → Operation α} {sent : List Sent}
    {result : Except Error α}
    : (ask c >>= f).Sends sent result
        ↔
      ∃ answer rest, sent = (Entry.sent? ⟨c, answer⟩).toList ++ rest ∧ (f answer).Sends rest result
    := by
  have hrun : (ask c >>= f).run = .ask c fun answer => (f answer).run := rfl
  unfold Sends
  rw [hrun]
  constructor
  . rintro ⟨t, ht, rfl⟩
    obtain ⟨answer, rest, rfl, hrest⟩ := Program.yields_ask.mp ht
    refine ⟨answer, _, ?_, rest, hrest, rfl⟩
    rw [List.filterMap_cons]
    cases Entry.sent? ⟨c, answer⟩ <;> rfl
  . rintro ⟨answer, _, rfl, rest, hrest, rfl⟩
    refine ⟨⟨c, answer⟩ :: rest, Program.yields_ask.mpr ⟨answer, rest, rfl, hrest⟩, ?_⟩
    rw [List.filterMap_cons]
    cases Entry.sent? ⟨c, answer⟩ <;> rfl

theorem sends_log_bind {h : Handle} {message : String} {values : List (String × String)}
    {f : Unit → Operation α} {sent : List Sent} {result : Except Error α}
    : (h.log message values >>= f).Sends sent result ↔ (f ()).Sends sent result := by
  unfold Handle.log
  rw [sends_ask_bind]
  constructor
  . rintro ⟨_, rest, rfl, hrest⟩
    exact hrest
  . intro hrest
    exact ⟨(), sent, rfl, hrest⟩

theorem sends_exchange_bind {x : Exchange} {f : Except Error Bytes → Operation α}
    {sent : List Sent} {result : Except Error α}
    : (ask (.exchange x) >>= f).Sends sent result
        ↔
      ∃ answer rest, sent = (x, answer) :: rest ∧ (f answer).Sends rest result := by
  rw [sends_ask_bind]
  rfl

theorem ofExcept_ok_bind {check : Except Error α} {f : α → Operation β} {value : α}
    (h : check = .ok value)
    : (ofExcept check >>= f : Operation β) = f value := by
  rw [h]
  rfl

theorem ofExcept_error_bind {check : Except Error α} {f : α → Operation β} {e : Error}
    (h : check = .error e)
    : (ofExcept check >>= f : Operation β) = throw e := by
  rw [h]
  rfl

end Operation

namespace Handle

theorem sends_send {h : Handle} {c : Command} {payload : Bytes} {replyLength : Nat}
    (hpayload : payload.length ≤ maxDataLength) (hreply : replyLength ≤ maxDataLength)
    {sent : List Sent} {result : Except Error Bytes}
    : (h.send c payload replyLength).Sends sent result
        ↔
      ∃ answer,
        sent = [(⟨c.id, payload, replyLength⟩, answer)]
          ∧
        result = answer.map (·.fit replyLength) := by
  unfold send
  rw [if_neg (by omega), if_neg (by omega)]
  dsimp only
  rw [Operation.sends_log_bind, Operation.sends_exchange_bind]
  constructor
  . rintro ⟨answer, rest, rfl, hrest⟩
    cases answer with
    | ok reply =>
      obtain ⟨rfl, rfl⟩ := Operation.sends_pure.mp hrest
      exact ⟨.ok reply, rfl, rfl⟩
    | error e =>
      dsimp only at hrest
      rw [Operation.sends_log_bind, Operation.sends_throw] at hrest
      obtain ⟨rfl, rfl⟩ := hrest
      exact ⟨.error e, rfl, rfl⟩
  . rintro ⟨answer, rfl, rfl⟩
    refine ⟨answer, [], rfl, ?_⟩
    cases answer with
    | ok reply => exact Operation.sends_pure.mpr ⟨rfl, rfl⟩
    | error e =>
      dsimp only
      rw [Operation.sends_log_bind, Operation.sends_throw]
      exact ⟨rfl, rfl⟩

end Handle

def Request.exchange (generation : Generation) (r : Request) : Exchange :=
  ⟨r.command.id, r.payload generation, r.replyLength⟩

def Request.Fits (generation : Generation) (r : Request) : Prop :=
  (r.payload generation).length ≤ maxDataLength ∧ r.replyLength ≤ maxDataLength

theorem Request.fits_of_exchange_eq {generation : Generation} {r : Request} {x : Exchange}
    (h : r.exchange generation = x) (hpayload : x.payload.length ≤ maxDataLength)
    (hreply : x.replyLength ≤ maxDataLength)
    : r.Fits generation := by
  rw [← h] at hpayload hreply
  exact ⟨hpayload, hreply⟩

namespace Handle

theorem sends_request {h : Handle} {r : Request} (hfits : r.Fits h.generation) {sent : List Sent}
    {result : Except Error Bytes}
    : (h.request r).Sends sent result
        ↔
      ∃ answer,
        sent = [(r.exchange h.generation, answer)]
          ∧
        result = answer.map (·.fit r.replyLength) := by
  apply sends_send hfits.1 hfits.2

theorem sends_request_pure {h : Handle} {r : Request} (hfits : r.Fits h.generation) {f : Bytes → α}
    {sent : List Sent} {result : Except Error α}
    : (h.request r >>= fun reply => pure (f reply)).Sends sent result
        ↔
      ∃ answer,
        sent = [(r.exchange h.generation, answer)]
          ∧
        result = answer.map fun reply => f (reply.fit r.replyLength) := by
  rw [Operation.sends_bind_pure]
  simp only [sends_request hfits]
  constructor
  . rintro ⟨_, ⟨answer, rfl, rfl⟩, rfl⟩
    refine ⟨answer, rfl, ?_⟩
    apply except_map_map
  . rintro ⟨answer, rfl, rfl⟩
    refine ⟨_, ⟨answer, rfl, rfl⟩, ?_⟩
    rw [except_map_map]

theorem sends_order {h : Handle} {r : Request} (hfits : r.Fits h.generation) {sent : List Sent}
    {result : Except Error Unit}
    : (h.order r).Sends sent result
        ↔
      ∃ answer, sent = [(r.exchange h.generation, answer)] ∧ result = answer.map fun _ => () := by
  apply sends_request_pure hfits

end Handle
end PcieSwitch
