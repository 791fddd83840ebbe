import PcieSwitch.Proofs.SessionCalls

/-!
This module contains the switches that a session opens. A command of the program opens one before it does anything with
it, and has sent nothing if it could not open it.
-/

namespace PcieSwitch

def Entry.opened? : Entry sessionInterface → Option Handle
  | ⟨.openDevice _, .ok h⟩ => some h
  | _ => none

def SessionCall.OpensNone : SessionCall → Prop
  | .openDevice _ => False
  | _ => True

theorem SessionCall.ReadsSettings.opensNone {c : SessionCall} (h : c.ReadsSettings) : c.OpensNone := by
  cases c with
  | openDevice => cases h
  | _ => trivial

theorem filterMap_opened?_of_opensNone {t : List (Entry sessionInterface)} (h : ∀ entry ∈ t, entry.1.OpensNone)
    : t.filterMap Entry.opened? = [] := by
  rw [List.filterMap_eq_nil_iff]
  rintro ⟨c, answer⟩ hentry
  have hnone := h _ hentry
  cases c with
  | openDevice => cases hnone
  | _ => rfl

def Unopened (t : List (Entry sessionInterface)) (result : Except Failure α) : Prop :=
  t.filterMap Entry.opened? = []
    ∧
  t.filterMap Entry.exchanged? = []
    ∧
  t.filterMap Entry.printed? = []
    ∧
  ∃ e, result = .error e

namespace Session

theorem AsksOnly.perform {P : SessionCall → Prop} (h : ∀ c, P (.device c)) (operation : Operation α)
    : AsksOnly P (Session.perform operation) := by
  apply AsksOnly.ofDevice
  apply AsksOnly.onDevice
  intro t value _ entry _
  exact h entry.1

end Session

namespace Context

open Session

theorem filterMap_opened?_of_openDevice {c : Context} {t : List (Entry sessionInterface)} {result : Except Failure Handle}
    (h : c.openDevice.run.Yields t result) : t.filterMap Entry.opened? = result.toOption.toList := by
  unfold openDevice at h
  split at h
  . obtain ⟨rfl, rfl⟩ := Program.yields_done.mp h
    rfl
  . rcases Program.yields_run_bind.mp h with ⟨e, hopen, rfl⟩ | ⟨handle, t₁, t₂, rfl, hopen, hrest⟩
    . obtain ⟨inner, hinner, hresult⟩ := yields_within.mp hopen
      obtain ⟨answer, rest, rfl, hdone⟩ := Program.yields_ask.mp hinner
      obtain ⟨rfl, rfl⟩ := Program.yields_done.mp hdone
      cases answer with
      | error cause => rfl
      | ok handle => cases hresult
    . have hinner := yields_within_ok.mp hopen
      obtain ⟨answer, rest, rfl, hdone⟩ := Program.yields_ask.mp hinner
      obtain ⟨rfl, hanswer⟩ := Program.yields_done.mp hdone
      obtain ⟨_, rest, rfl, hlast⟩ := yields_ask_bind.mp hrest
      obtain ⟨rfl, rfl⟩ := Program.yields_done.mp hlast
      cases answer with
      | error cause => cases hanswer
      | ok other =>
        cases hanswer
        rfl

section

variable {c : Context} {f : Handle → Session α} {t : List (Entry sessionInterface)} {result : Except Failure α}

theorem yields_openDevice_bind (hf : ∀ h, AsksOnly SessionCall.OpensNone (f h))
    (hyields : (c.openDevice >>= f).run.Yields t result)
    : Unopened t result ∨
      (∃ h, t.filterMap Entry.opened? = [h]
        ∧
      (f h).Shows (t.filterMap Entry.exchanged?) (t.filterMap Entry.printed?) result) := by
  rcases Program.yields_run_bind.mp hyields with ⟨e, hopen, rfl⟩ | ⟨h, t₁, t₂, rfl, hopen, hrest⟩
  . obtain ⟨hsent, hprinted⟩ := quiet_of_shows_openDevice ⟨t, hopen, rfl, rfl⟩
    exact .inl ⟨filterMap_opened?_of_openDevice hopen, hsent, hprinted, e, rfl⟩
  . obtain ⟨hsent, hprinted⟩ := quiet_of_shows_openDevice ⟨t₁, hopen, rfl, rfl⟩
    have hopened := filterMap_opened?_of_opensNone (hf h t₂ result hrest)
    simp only [List.filterMap_append, filterMap_opened?_of_openDevice hopen, hopened, hsent, hprinted, List.nil_append]
    exact .inr ⟨h, rfl, t₂, hrest, rfl, rfl⟩

end

end Context
end PcieSwitch
