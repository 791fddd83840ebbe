import PcieSwitch.Proofs.Exchanges

/-!
This module contains runs of work that can fail: a run goes on from where the work before it stopped, and
stops at the first failure.
-/

namespace PcieSwitch

variable {I : Interface}

namespace Program

def attempt (outside : Handler I σ) (work : ExceptT ε (Program I) α) (s : σ) : Except ε α × σ :=
  work.run.run outside s

variable {outside : Handler I σ} {s s' : σ}

theorem attempt_bind (work : ExceptT ε (Program I) α) (f : α → ExceptT ε (Program I) β)
    : attempt outside (work >>= f) s
        =
      match attempt outside work s with
      | (.ok value, s') => attempt outside (f value) s'
      | (.error e, s') => (.error e, s') := by
  have hbind := run_bind outside work.run
    (fun result => match result with | .ok value => (f value).run | .error e => pure (.error e)) s
  unfold attempt
  apply Eq.trans hbind
  cases hwork : work.run.run outside s with
  | mk result s' =>
    cases result with
    | ok value => rfl
    | error e => rfl

theorem attempt_bind_of_ok {work : ExceptT ε (Program I) α} {f : α → ExceptT ε (Program I) β}
    {value : α} (h : attempt outside work s = (.ok value, s'))
    : attempt outside (work >>= f) s = attempt outside (f value) s' := by
  rw [attempt_bind, h]

theorem attempt_tryCatch (work : ExceptT ε (Program I) α) (other : ε → ExceptT ε (Program I) α)
    : attempt outside (tryCatch work other) s
        =
      match attempt outside work s with
      | (.ok value, s') => (.ok value, s')
      | (.error e, s') => attempt outside (other e) s' := by
  have hbind := run_bind outside work.run
    (fun result => match result with | .ok value => pure (.ok value) | .error e => (other e).run) s
  unfold attempt
  apply Eq.trans hbind
  cases hwork : work.run.run outside s with
  | mk result s' =>
    cases result with
    | ok value => rfl
    | error e => rfl

theorem attempt_pure (value : α)
    : attempt outside (pure value : ExceptT ε (Program I) α) s = (.ok value, s) := by
  rfl

theorem attempt_ofExcept (result : Except ε α)
    : attempt outside (ofExcept result : ExceptT ε (Program I) α) s = (result, s) := by
  cases result <;> rfl

theorem attempt_call {c : I.Call}
    : attempt outside (ExceptT.lift (Program.call c) : ExceptT ε (Program I) (I.Answer c)) s
        =
      (.ok (outside c s).1, (outside c s).2) := by
  rfl

end Program

namespace Handle

open Program

theorem attempt_request_of_answers {h : Handle} {r : Request} {x : Exchange}
    (hexchange : r.exchange h.generation = x) (hfits : r.Fits h.generation)
    {outside : Handler deviceInterface σ} {s : σ} {after : Bytes → σ → Prop}
    (hanswers : ∀ line, ∃ reply s',
      outside (.exchange x) (outside (.log line) s).2 = (.ok reply, s') ∧ after reply s')
    : ∃ reply s', attempt outside (h.request r) s = (.ok (reply.fit x.replyLength), s') ∧ after reply s' := by
  subst hexchange
  unfold request send
  rw [if_neg (Nat.not_lt.mpr hfits.1), if_neg (Nat.not_lt.mpr hfits.2)]
  dsimp only
  unfold log Operation.ask
  rw [attempt_bind_of_ok attempt_call]
  generalize hline : LogLine.mk _ _ = line
  -- the request was told to the log, so it is answered from the state after that line
  obtain ⟨reply, s', hexchanged, hafter⟩ := hanswers line
  unfold Request.exchange at hexchanged
  refine ⟨reply, s', ?_, hafter⟩
  rw [attempt_bind_of_ok attempt_call, hexchanged]
  rfl

theorem attempt_request_of_answer {h : Handle} {r : Request} {x : Exchange}
    (hexchange : r.exchange h.generation = x) (hfits : r.Fits h.generation)
    {outside : Handler deviceInterface σ} {s : σ} {reply : Bytes} {after : σ → Prop}
    (hanswer : ∀ line, ∃ s',
      outside (.exchange x) (outside (.log line) s).2 = (.ok reply, s') ∧ after s')
    : ∃ s', attempt outside (h.request r) s = (.ok (reply.fit x.replyLength), s') ∧ after s' := by
  have hanswers : ∀ line, ∃ given s',
      outside (.exchange x) (outside (.log line) s).2 = (.ok given, s') ∧ given = reply ∧ after s' := by
    intro line
    obtain ⟨s', hexchanged, hafter⟩ := hanswer line
    exact ⟨reply, s', hexchanged, rfl, hafter⟩
  obtain ⟨_, s', hrequest, rfl, hafter⟩ := attempt_request_of_answers hexchange hfits hanswers
  exact ⟨s', hrequest, hafter⟩

end Handle
end PcieSwitch
