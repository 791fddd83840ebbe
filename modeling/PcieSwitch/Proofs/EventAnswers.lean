import PcieSwitch.Proofs.EventWork

/-!
This module contains the transcripts of work on events, for a switch whose driver reports them: each question to
the driver stands there with its answer, and a failing one ends the work.
-/

namespace PcieSwitch

theorem Entry.eq_of_last_failure {before after answered : List (Entry deviceInterface)} {c d : EventCall} {e e' : Error}
    (h : before ++ ⟨.event c, .error e⟩ :: after = answered ++ [⟨.event d, .error e'⟩])
    (hanswered : ∀ c e, (⟨.event c, .error e⟩ : Entry deviceInterface) ∉ answered)
    : after = [] ∧ e = e' := by
  rcases List.eq_nil_or_concat after with rfl | ⟨rest, last, rfl⟩
  . obtain ⟨_, hlast⟩ := List.append_inj' h rfl
    cases hlast
    exact ⟨rfl, rfl⟩
  . rw [List.concat_eq_append, ← List.cons_append, ← List.append_assoc] at h
    obtain ⟨hbefore, _⟩ := List.append_inj' h rfl
    rw [← hbefore] at hanswered
    exact absurd (List.mem_append_right before List.mem_cons_self) (hanswered c e)

namespace Operation

theorem yields_pure {value : α} {t : List (Entry deviceInterface)} {result : Except Error α}
    : (pure value : Operation α).run.Yields t result ↔ t = [] ∧ result = .ok value := by
  apply Program.yields_done

theorem yields_bind_ofExcept {operation : Operation α} {f : α → Except Error β} {t : List (Entry deviceInterface)}
    {result : Except Error β}
    : (operation >>= fun value => ofExcept (f value)).run.Yields t result
        ↔
      ∃ answer, operation.run.Yields t answer ∧ result = answer.bind f := by
  rw [Program.yields_run_bind]
  constructor
  . rintro (⟨e, h, rfl⟩ | ⟨value, t₁, t₂, rfl, h, hrest⟩)
    . exact ⟨.error e, h, rfl⟩
    . obtain ⟨rfl, rfl⟩ := Program.yields_ofExcept.mp hrest
      rw [List.append_nil]
      exact ⟨.ok value, h, rfl⟩
  . rintro ⟨answer, h, rfl⟩
    cases answer with
    | error e => exact .inl ⟨e, h, rfl⟩
    | ok value => exact .inr ⟨value, t, [], (List.append_nil t).symm, h, Program.yields_ofExcept.mpr ⟨rfl, rfl⟩⟩

theorem yields_bind_pure {operation : Operation α} {f : α → β} {t : List (Entry deviceInterface)}
    {result : Except Error β}
    : (operation >>= fun value => pure (f value)).run.Yields t result
        ↔
      ∃ answer, operation.run.Yields t answer ∧ result = answer.map f := by
  exact yields_bind_ofExcept (f := fun value => .ok (f value))

theorem yields_ask_bind {c : DeviceCall} {f : c.Answer → Operation α} {t : List (Entry deviceInterface)}
    {result : Except Error α}
    : (ask c >>= f).run.Yields t result
        ↔
      ∃ answer rest, t = ⟨c, answer⟩ :: rest ∧ (f answer).run.Yields rest result := by
  exact Program.yields_ask

end Operation

namespace Handle

variable {h : Handle} {t : List (Entry deviceInterface)}

theorem yields_askEvents (hevents : h.hasEvents = true) {c : EventCall} {result : c.Answer}
    : (h.askEvents c).run.Yields t result ↔ t = [⟨.event c, result⟩] := by
  unfold askEvents
  rw [if_pos hevents]
  constructor
  . intro hyields
    obtain ⟨answer, rest, rfl, hrest⟩ := Program.yields_ask.mp hyields
    obtain ⟨rfl, rfl⟩ := Program.yields_done.mp hrest
    rfl
  . rintro rfl
    exact Program.yields_ask.mpr ⟨result, [], rfl, .done result⟩

theorem yields_askEvents_bind (hevents : h.hasEvents = true) {c : EventCall} {f : c.Value → Operation α}
    {result : Except Error α}
    : (h.askEvents c >>= f).run.Yields t result
        ↔
      (∃ e, t = [⟨.event c, .error e⟩] ∧ result = .error e) ∨
      (∃ value rest, t = ⟨.event c, .ok value⟩ :: rest ∧ (f value).run.Yields rest result) := by
  rw [Program.yields_run_bind]
  simp only [yields_askEvents hevents]
  constructor
  . rintro (⟨e, rfl, rfl⟩ | ⟨value, t₁, t₂, rfl, rfl, hrest⟩)
    . exact .inl ⟨e, rfl, rfl⟩
    . exact .inr ⟨value, t₂, rfl, hrest⟩
  . rintro (⟨e, rfl, rfl⟩ | ⟨value, rest, rfl, hrest⟩)
    . exact .inl ⟨e, rfl, rfl⟩
    . exact .inr ⟨value, _, rest, rfl, rfl, hrest⟩

end Handle
end PcieSwitch
