import PcieSwitch.Proofs.Exchanges

/-!
This module contains chains of commands. An operation of this form knows what it sends next from the replies
so far, and it stops at the first command that fails, with that command's error. Every operation on the
firmware is such a chain, so what holds of all chains holds of all operations.
-/

namespace PcieSwitch
namespace Operation

/--
A chain of commands, none of which is too large to be sent. Apart from the failures of its commands it ends
in no error but one that it raises itself.
-/
inductive Chained (Raises : Error → Prop) : Operation α → Prop where
  | done (value : α) : Chained Raises (pure value)
  | raised (e : Error) : Raises e → Chained Raises (throw e)
  | command (h : Handle) (c : Command) (payload : Bytes) (replyLength : Nat)
      (next : Bytes → Operation α) :
    payload.length ≤ maxDataLength → replyLength ≤ maxDataLength →
      (∀ reply, reply.length = replyLength → Chained Raises (next reply)) →
        Chained Raises (h.send c payload replyLength >>= next)

def replies (sent : List Sent) : List Bytes :=
  sent.filterMap fun y => y.2.toOption

def answering : Handler deviceInterface (List Bytes)
  | .exchange _, replies => (.ok (replies.headD []), replies.tail)
  | .event _, replies => (.error (.unsupported "switch events"), replies)
  | .now, replies => (0, replies)
  | .log _, replies => ((), replies)

section

variable {h : Handle} {c : Command} {payload : Bytes} {replyLength : Nat} {next : Bytes → Operation α}

theorem sends_send_bind (hpayload : payload.length ≤ maxDataLength)
    (hreply : replyLength ≤ maxDataLength) {sent : List Sent} {result : Except Error α}
    : (h.send c payload replyLength >>= next).Sends sent result
        ↔
      (∃ e, sent = [(⟨c.id, payload, replyLength⟩, .error e)] ∧ result = .error e) ∨
      (∃ reply rest,
        sent = (⟨c.id, payload, replyLength⟩, .ok reply) :: rest
          ∧
        (next (reply.fit replyLength)).Sends rest result) := by
  rw [sends_bind]
  simp only [Handle.sends_send hpayload hreply]
  constructor
  . rintro (⟨e, ⟨answer, rfl, hanswer⟩, rfl⟩ | ⟨value, s₁, s₂, rfl, ⟨answer, rfl, hanswer⟩, hnext⟩)
    . cases answer with
      | error e' =>
        cases hanswer
        exact .inl ⟨e, rfl, rfl⟩
      | ok reply => cases hanswer
    . cases answer with
      | error e => cases hanswer
      | ok reply =>
        cases hanswer
        exact .inr ⟨reply, s₂, rfl, hnext⟩
  . rintro (⟨e, rfl, rfl⟩ | ⟨reply, rest, rfl, hnext⟩)
    . exact .inl ⟨e, ⟨.error e, rfl, rfl⟩, rfl⟩
    . exact .inr ⟨_, _, rest, rfl, ⟨.ok reply, rfl, rfl⟩, hnext⟩

theorem sent_answering_send_bind (hpayload : payload.length ≤ maxDataLength)
    (hreply : replyLength ≤ maxDataLength) (replies : List Bytes)
    : (h.send c payload replyLength >>= next).sent answering replies
        =
      (⟨c.id, payload, replyLength⟩, .ok (replies.headD []))
        :: (next ((replies.headD []).fit replyLength)).sent answering replies.tail := by
  unfold Handle.send
  rw [if_neg (Nat.not_lt.mpr hpayload), if_neg (Nat.not_lt.mpr hreply)]
  rfl

end

namespace Chained

variable {Raises : Error → Prop} {operation : Operation α} {sent : List Sent} {result : Except Error α}

theorem bind {f : α → Operation β} (h : Chained Raises operation)
    (hf : ∀ value, Chained Raises (f value))
    : Chained Raises (operation >>= f) := by
  induction h with
  | done value =>
    rw [pure_bind]
    apply hf
  | raised e he => exact .raised e he
  | command h c payload replyLength next hpayload hreply _ ih =>
    rw [bind_assoc]
    exact .command h c payload replyLength _ hpayload hreply ih

theorem send (h : Handle) (c : Command) {payload : Bytes} {replyLength : Nat}
    (hpayload : payload.length ≤ maxDataLength) (hreply : replyLength ≤ maxDataLength)
    : Chained Raises (h.send c payload replyLength) := by
  rw [← bind_pure (h.send c payload replyLength)]
  apply command h c payload replyLength _ hpayload hreply
  intro reply _
  apply done

theorem fits (h : Chained Raises operation) (hsends : operation.Sends sent result)
    : ∀ y ∈ sent, y.1.payload.length ≤ maxDataLength ∧ y.1.replyLength ≤ maxDataLength := by
  induction h generalizing sent with
  | done value =>
    rw [(sends_pure.mp hsends).1]
    apply List.forall_mem_nil
  | raised e _ =>
    rw [(sends_throw.mp hsends).1]
    apply List.forall_mem_nil
  | command h c payload replyLength next hpayload hreply _ ih =>
    rcases (sends_send_bind hpayload hreply).mp hsends with ⟨e, rfl, _⟩ | ⟨reply, rest, rfl, hnext⟩
    . rw [List.forall_mem_singleton]
      exact ⟨hpayload, hreply⟩
    . rw [List.forall_mem_cons]
      exact ⟨⟨hpayload, hreply⟩, ih _ (Bytes.length_fit _ _) hnext⟩

theorem raises_or_failed {e : Error} (h : Chained Raises operation)
    (hsends : operation.Sends sent (.error e))
    : (Raises e ∧ ∀ y ∈ sent, ∃ reply, y.2 = .ok reply) ∨ ∃ x, (x, .error e) ∈ sent := by
  induction h generalizing sent with
  | done value => cases (sends_pure.mp hsends).2
  | raised e' he =>
    obtain ⟨rfl, heq⟩ := sends_throw.mp hsends
    cases heq
    exact .inl ⟨he, List.forall_mem_nil _⟩
  | command h c payload replyLength next hpayload hreply _ ih =>
    rcases (sends_send_bind hpayload hreply).mp hsends with ⟨e', rfl, heq⟩ | ⟨reply, rest, rfl, hnext⟩
    . cases heq
      exact .inr ⟨_, List.mem_singleton_self _⟩
    . rcases ih _ (Bytes.length_fit _ _) hnext with ⟨he, hrest⟩ | ⟨x, hx⟩
      . refine .inl ⟨he, ?_⟩
        rw [List.forall_mem_cons]
        exact ⟨⟨reply, rfl⟩, hrest⟩
      . exact .inr ⟨x, List.mem_cons_of_mem _ hx⟩

theorem stops_at_failure {before after : List Sent} {x : Exchange} {e : Error}
    (h : Chained Raises operation) (hsends : operation.Sends sent result)
    (hsent : sent = before ++ (x, .error e) :: after)
    : after = [] ∧ result = .error e := by
  induction h generalizing sent before with
  | done value =>
    rw [(sends_pure.mp hsends).1] at hsent
    simp at hsent
  | raised e' _ =>
    rw [(sends_throw.mp hsends).1] at hsent
    simp at hsent
  | command h c payload replyLength next hpayload hreply _ ih =>
    -- either this command is the one that failed, or that one is among those that follow its reply
    rcases (sends_send_bind hpayload hreply).mp hsends with ⟨e', rfl, rfl⟩ | ⟨reply, rest, rfl, hnext⟩
    . cases before with
      | cons y before => simp at hsent
      | nil =>
        cases hsent
        exact ⟨rfl, rfl⟩
    . cases before with
      | nil => cases hsent
      | cons y before =>
        cases hsent
        exact ih _ (Bytes.length_fit _ _) hnext rfl

theorem prefix_answering (h : Chained Raises operation) (hsends : operation.Sends sent result)
    (more : List Bytes)
    : sent.map Prod.fst <+: (operation.sent answering (replies sent ++ more)).map Prod.fst := by
  induction h generalizing sent with
  | done value =>
    rw [(sends_pure.mp hsends).1]
    apply List.nil_prefix
  | raised e _ =>
    rw [(sends_throw.mp hsends).1]
    apply List.nil_prefix
  | command h c payload replyLength next hpayload hreply _ ih =>
    -- the answering firmware gives the same reply to this command, so both go on the same way
    rw [sent_answering_send_bind hpayload hreply]
    rcases (sends_send_bind hpayload hreply).mp hsends with ⟨e, rfl, _⟩ | ⟨reply, rest, rfl, hnext⟩
    . apply List.cons_prefix_cons.mpr
      exact ⟨rfl, List.nil_prefix⟩
    . apply List.cons_prefix_cons.mpr
      exact ⟨rfl, ih _ (Bytes.length_fit _ _) hnext⟩

end Chained
end Operation
end PcieSwitch
