import PcieSwitch.Proofs.GivenOptions
import PcieSwitch.Proofs.RegisterActions
import PcieSwitch.Proofs.UserConsent
import PcieSwitch.Simulation.Console

/-!
This module contains the two destructive actions. Each of them does one destructive thing at most, and only once the
user has consented to it.
-/

namespace PcieSwitch

open Session

theorem Consent.deliberate_require {yes : Bool} {text : String} {Step : SessionCall → Prop} {work : Session Unit}
    (hwork : ∀ t result, work.run.Yields t result → DoesOnce Step t) (hstep : ∀ c, Step c → c.isDestructive = true)
    {t : List (Entry sessionInterface)} {result : Except Failure Unit}
    (h : (do
      if !yes then
        Session.report text
      Consent.require yes
      work).run.Yields t result)
    : Deliberate yes Step t result := by
  have hrequired : ∀ {t}, (do Consent.require yes; work).run.Yields t result → Deliberate yes Step t result := by
    intro t h
    rcases Program.yields_run_bind.mp h with ⟨e, hrequire, rfl⟩ | ⟨_, asked, u, rfl, hrequire, hrest⟩
    . rcases yields_require hrequire with ⟨_, he⟩ | ⟨text, answer, rest, _, hyes, rfl, hanswer, hrest, _⟩
      . cases he
      . exact Deliberate.refused hyes (List.forall_mem_nil _) hanswer hrest
    . rcases yields_require hrequire with ⟨hsettled, _⟩ | ⟨_, _, _, e, _, _, _, _, he⟩
      . obtain ⟨before, entry, after, rfl, hbefore, hentry, hafter⟩ := hwork u result hrest
        exact Deliberate.consented (List.forall_mem_nil _) hsettled hbefore hentry (hstep entry.1 hentry) hafter
      . cases he
  cases yes with
  | true => exact hrequired h
  | false =>
    -- the user is warned first
    obtain ⟨answer, rest, rfl, hrest⟩ := yields_ask_bind.mp h
    have hwarning : Quiet [⟨.report (text ++ "\n"), answer⟩] := List.forall_mem_singleton.mpr ⟨rfl, rfl⟩
    exact (hrequired hrest).prepend hwarning

theorem doesOnce_order {h : Handle} {r : Request} (hfits : r.Fits h.generation) {t : List (Entry sessionInterface)}
    {result : Except Failure Unit} (hyields : (perform (h.order r)).run.Yields t result)
    : DoesOnce (· = .device (.exchange (r.exchange h.generation))) t := by
  obtain ⟨inner, hinner, rfl⟩ := Program.yields_map.mp hyields
  obtain ⟨asked, rfl, hasked⟩ := Program.yields_onDevice.mp hinner
  obtain ⟨answer, hsent, _⟩ := (Handle.sends_order hfits).mp ⟨asked, hasked, rfl⟩
  exact doesOnce_of_sends hsent

theorem doesOnce_bind {P : SessionCall → Prop} {work : Session α} {f : α → Session β}
    (hwork : ∀ t result, work.run.Yields t result → DoesOnce P t) (hf : ∀ value, AsksOnly SessionCall.Quiet (f value))
    {t : List (Entry sessionInterface)} {result : Except Failure β} (h : (work >>= f).run.Yields t result)
    : DoesOnce P t := by
  rcases Program.yields_run_bind.mp h with ⟨e, hfail, _⟩ | ⟨value, t₁, t₂, rfl, hfirst, hrest⟩
  . exact hwork t _ hfail
  . exact (hwork t₁ _ hfirst).append_quiet (hf value t₂ _ hrest)

theorem doesOnce_within {P : SessionCall → Prop} {step : String} {work : Session α}
    (hwork : ∀ t result, work.run.Yields t result → DoesOnce P t) {t : List (Entry sessionInterface)}
    {result : Except Failure α} (h : (within step work).run.Yields t result) : DoesOnce P t := by
  obtain ⟨inner, hinner, _⟩ := Program.yields_map.mp h
  exact hwork t inner hinner

namespace Context

def Resets (c : SessionCall) : Prop :=
  ∃ generation, c = .device (.exchange (Request.reset.exchange generation))

theorem deliberate_hardReset {c : Context} {yes : Bool} {t : List (Entry sessionInterface)}
    {result : Except Failure Unit} (h : (c.hardReset yes).run.Yields t result) : Deliberate yes Resets t result := by
  have hstep : ∀ call, Resets call → call.isDestructive = true := by
    rintro _ ⟨generation, rfl⟩
    rfl
  have hquiet := c.quiet_openDevice
  rcases Program.yields_run_bind.mp h with ⟨e, hopen, rfl⟩ | ⟨handle, t₁, t₂, rfl, hopen, hrest⟩
  . exact Deliberate.unasked (hquiet t _ hopen)
  . have hfits : Request.reset.Fits handle.generation := Request.fits_of_isFixed rfl
    have hreset : ∀ u r, (do
        within "hard reset" (perform handle.hardReset)
        log .warning "hard reset issued" [("device", handle.name)]
        report (handle.name ++ ": hard reset")).run.Yields u r → DoesOnce Resets u := by
      intro u r hu
      refine doesOnce_bind (fun u r hu => doesOnce_within (fun u r hu => ?_) hu) (fun _ => ?_) hu
      . apply (doesOnce_order hfits hu).mono
        rintro _ rfl
        exact ⟨handle.generation, rfl⟩
      . exact (AsksOnly.ask ⟨rfl, rfl⟩).bind fun _ => AsksOnly.ask ⟨rfl, rfl⟩
    exact (Consent.deliberate_require hreset hstep hrest).prepend (hquiet t₁ _ hopen)

/--
What a session knows of the size of the registers that it reached to write: the firmware's window has one size, and
the size of a mapping is that of the file.
-/
def Opened (tunnelled : Bool) (t : List (Entry sessionInterface)) (size : Nat) : Prop :=
  if tunnelled then size = windowSize else ∃ path, ⟨.openRegisters path true, .ok size⟩ ∈ t

theorem Opened.append_right {tunnelled : Bool} {t : List (Entry sessionInterface)} {size : Nat}
    (h : Opened tunnelled t size) (u : List (Entry sessionInterface)) : Opened tunnelled (t ++ u) size := by
  cases tunnelled with
  | true => exact h
  | false =>
    obtain ⟨path, hopened⟩ := h
    exact ⟨path, List.mem_append_left u hopened⟩

theorem Opened.append_left {tunnelled : Bool} {t : List (Entry sessionInterface)} {size : Nat}
    (h : Opened tunnelled t size) (u : List (Entry sessionInterface)) : Opened tunnelled (u ++ t) size := by
  cases tunnelled with
  | true => exact h
  | false =>
    obtain ⟨path, hopened⟩ := h
    exact ⟨path, List.mem_append_right u hopened⟩

theorem Reached.opened {c : Context} {t : List (Entry sessionInterface)} {w : Registers} (h : c.Reached true t w)
    : Opened c.tunnelled t w.size := by
  cases h with
  | tunnelled h htunnelled =>
    rw [htunnelled]
    rfl
  | mapped hmapped hopened =>
    rw [hmapped]
    exact ⟨_, hopened⟩

theorem deliberate_writeRegister {c : Context} {address bytes : Nat} {value : UInt64} {yes : Bool}
    {t : List (Entry sessionInterface)} {result : Except Failure Unit}
    (h : (c.writeRegister address bytes value yes).run.Yields t result)
    : Quiet t ∧ (∃ e, result = .error e)
        ∨
      ∃ reach rest size place, t = reach ++ rest ∧ Quiet reach ∧ Opened c.tunnelled reach size
        ∧ Window.validate size address bytes value = .ok place
        ∧ Deliberate yes (SessionCall.WritesRegister c.tunnelled place.1 place.2 value) rest result := by
  have hquiet := c.quiet_registers true
  rcases Program.yields_run_bind.mp h with ⟨e, hreach, rfl⟩ | ⟨w, t₁, t₂, rfl, hreach, hrest⟩
  . exact Or.inl ⟨hquiet t _ hreach, e, rfl⟩
  have hreached := reached_of_yields hreach
  cases hvalid : Window.validate w.size address bytes value with
  | error e =>
    rw [hvalid] at hrest
    obtain ⟨rfl, rfl⟩ := Program.yields_done.mp hrest
    rw [List.append_nil]
    exact Or.inl ⟨hquiet t₁ _ hreach, _, rfl⟩
  | ok place =>
    rw [hvalid] at hrest
    refine Or.inr ⟨t₁, t₂, w.size, place, rfl, hquiet t₁ _ hreach, hreached.opened, hvalid, ?_⟩
    have hwrite : ∀ u r, (do
        let _ ← within "gas write" (ofDevice (w.writeRegister address bytes value))).run.Yields u r →
        DoesOnce (SessionCall.WritesRegister c.tunnelled place.1 place.2 value) u := by
      intro u r hu
      refine doesOnce_bind (fun u r hu => doesOnce_within (fun u r hu => ?_) hu) (fun _ => AsksOnly.pure _) hu
      obtain ⟨inner, hinner, _⟩ := Program.yields_map.mp hu
      exact hreached.doesOnce_writeRegister hvalid hinner
    exact Consent.deliberate_require hwrite (fun _ => SessionCall.WritesRegister.isDestructive) hrest

end Context

namespace Action

def isDestructive : Action → Bool
  | .hardReset _ | .writeRegister .. => true
  | _ => false

/--
The destructive calls that an action may make, after what was asked before: a reset of the switch, and the write of
the one register that the action names, if it can be written.
-/
def Permits (tunnelled : Bool) (t : List (Entry sessionInterface)) (call : SessionCall) : Action → Prop
  | .hardReset _ => Context.Resets call
  | .writeRegister address bytes value _ =>
    ∃ size width aligned, Context.Opened tunnelled t size
      ∧ Window.validate size address bytes value = .ok (width, aligned)
      ∧ call.WritesRegister tunnelled width aligned value
  | _ => False

def Checked (tunnelled : Bool) (t : List (Entry sessionInterface)) : Action → Prop
  | .writeRegister address bytes value _ =>
    ∃ size place, Context.Opened tunnelled t size ∧ Window.validate size address bytes value = .ok place
  | _ => True

/--
What a run of an action does that cannot be undone, and what the user is asked for it.
-/
structure Restrained (a : Action) (tunnelled : Bool) (t : List (Entry sessionInterface)) (result : Except Failure Unit)
    : Prop where
  permitted : ∀ entry ∈ t, entry.1.isDestructive = true → a.Permits tunnelled t entry.1
  once : t.countP (·.1.isDestructive) ≤ 1
  done : a.isDestructive = true → result = .ok () → t.countP (·.1.isDestructive) = 1
  consented : ∀ before entry after, t = before ++ entry :: after → entry.1.isDestructive = true →
    Consent.GivenBefore a.yes before
  checked : ∀ before entry after, t = before ++ entry :: after → ¬ entry.1.Quiet → a.Checked tunnelled before
  askedOnce : t.countP (·.1.isQuestion) ≤ 1
  asked : ∀ text answer, ⟨.question text, answer⟩ ∈ t → a.isDestructive = true ∧ a.yes = false
  refused : ∀ text answer, ⟨.question text, answer⟩ ∈ t → ¬ Consent.Given answer →
    (∀ entry ∈ t, entry.1.isDestructive = false) ∧ ∃ e, result = .error e
  unconsented : a.isDestructive = true → ¬ Consent.GivenBefore a.yes t → ∃ e, result = .error e

variable {a : Action} {tunnelled : Bool} {t : List (Entry sessionInterface)} {result : Except Failure Unit}

theorem restrained_of_quiet (h : Quiet t) (herror : a.isDestructive = true → ∃ e, result = .error e)
    : a.Restrained tunnelled t result where
  permitted entry hentry hdestructive := by
    rw [h.not_destructive entry hentry] at hdestructive
    cases hdestructive
  once := by
    rw [countP_of_forall_not h.not_destructive]
    exact Nat.zero_le 1
  done hdestructive hresult := by
    obtain ⟨e, rfl⟩ := herror hdestructive
    cases hresult
  consented before entry after ht hdestructive := by
    rw [h.not_destructive entry (ht ▸ List.mem_append_right _ List.mem_cons_self)] at hdestructive
    cases hdestructive
  checked before entry after ht hnot := absurd (h entry (ht ▸ List.mem_append_right _ List.mem_cons_self)) hnot
  askedOnce := by
    rw [countP_of_forall_not h.not_question]
    exact Nat.zero_le 1
  asked text answer hasked := by cases h.not_question _ hasked
  refused text answer hasked _ := by cases h.not_question _ hasked
  unconsented hdestructive _ := herror hdestructive

theorem restrained_of_deliberate (h : Deliberate a.yes (a.Permits tunnelled t) t result) (ha : a.isDestructive = true)
    (hchecked : ∀ before entry after, t = before ++ entry :: after → ¬ entry.1.Quiet → a.Checked tunnelled before)
    : a.Restrained tunnelled t result where
  permitted := h.permitted
  once := h.countP_eq.1
  done _ := h.countP_eq.2
  consented before entry after ht hdestructive := h.givenBefore ht hdestructive
  checked := hchecked
  askedOnce := h.countP_question_le
  asked text answer hasked := ⟨ha, (h.asked hasked).1⟩
  refused text answer hasked := (h.asked hasked).2
  unconsented _ hnot := by
    rcases h.destructive_cases with ⟨_, herror⟩ | ⟨before, entry, after, rfl, _, _, _, _, hgiven⟩
    . exact herror
    . exact absurd (hgiven.append_right _) hnot

theorem quiet_perform (c : Context) (h : a.isDestructive = false) : AsksOnly SessionCall.Quiet (a.perform c) := by
  cases a with
  | list verbose => exact c.quiet_listDevices verbose
  | status reset => exact c.quiet_status reset
  | bandwidth time verbose => exact c.quiet_measureBandwidth time verbose
  | selectBandwidth kind => exact c.quiet_selectBandwidth kind
  | latency time egress ingress => exact c.quiet_measureLatency time egress ingress
  | events all reset clear => exact c.quiet_events all reset clear
  | waitEvent event partition port timeout => exact c.quiet_waitEvent event partition port timeout
  | test => exact c.quiet_test
  | temperature => exact c.quiet_temperature
  | bindInfo physical => exact c.quiet_bindInfo physical
  | bind partition logical physical => exact c.quiet_bind partition logical physical
  | unbind partition logical => exact c.quiet_unbind partition logical
  | counters stack reset => exact c.quiet_counters stack reset
  | setupCounter arguments => exact c.quiet_setupCounter arguments
  | showCounter stack counter => exact c.quiet_showCounter stack counter
  | deleteCounter stack counter => exact c.quiet_deleteCounter stack counter
  | waitCounters timeout => exact c.quiet_waitCounters timeout
  | dump count text => exact c.quiet_dump count text
  | readRegisters address bytes count style => exact c.quiet_readRegisters address bytes count style
  | inject arguments => exact c.quiet_inject arguments
  | hardReset | writeRegister => cases h

theorem restrained_of_yields {c : Context} {before : List (Entry sessionInterface)} (hbefore : Quiet before)
    (h : (a.perform c).run.Yields t result) : a.Restrained c.tunnelled (before ++ t) result := by
  cases ha : a.isDestructive with
  | false =>
    apply restrained_of_quiet (hbefore.append (a.quiet_perform c ha t result h))
    intro htrue
    rw [ha] at htrue
    cases htrue
  | true =>
    cases a with
    | hardReset yes =>
      refine restrained_of_deliberate ?_ rfl ?_
      . exact (Context.deliberate_hardReset h).prepend hbefore
      . intro _ _ _ _ _
        trivial
    | writeRegister address bytes value yes =>
      rcases Context.deliberate_writeRegister h with ⟨hquiet, herror⟩ |
        ⟨reach, rest, size, place, rfl, hreach, hopened, hvalid, hdeliberate⟩
      . exact restrained_of_quiet (hbefore.append hquiet) fun _ => herror
      . have hquiet := hbefore.append hreach
        have hsize := hopened.append_left before
        rw [← List.append_assoc]
        refine restrained_of_deliberate ?_ rfl ?_
        . apply (hdeliberate.prepend hquiet).mono
          intro call hcall
          exact ⟨size, place.1, place.2, hsize.append_right rest, hvalid, hcall⟩
        . -- a call that is not quiet comes after all that it took to reach the registers
          intro first entry after hentry hnot
          obtain ⟨middle, rfl⟩ := exists_append_of_not hquiet hnot hentry
          exact ⟨size, place, hsize.append_right middle, hvalid⟩
    | _ => cases ha

theorem Restrained.impossible {address bytes : Nat} {value : UInt64} {yes : Bool}
    (h : (writeRegister address bytes value yes).Restrained tunnelled t result)
    (himpossible : ∀ size, Context.Opened tunnelled t size → ∃ e, Window.validate size address bytes value = .error e)
    : Quiet t ∧ ∃ e, result = .error e := by
  have hquiet : Quiet t := by
    intro entry hentry
    obtain ⟨before, after, rfl⟩ := List.append_of_mem hentry
    apply Classical.byContradiction
    intro hloud
    obtain ⟨size, place, hopened, hvalid⟩ := h.checked before entry after rfl hloud
    obtain ⟨e, herror⟩ := himpossible size (hopened.append_right _)
    rw [hvalid] at herror
    cases herror
  refine ⟨hquiet, ?_⟩
  cases result with
  | error e => exact ⟨e, rfl⟩
  | ok _ =>
    have hdone := h.done rfl rfl
    rw [countP_of_forall_not hquiet.not_destructive] at hdone
    cases hdone

theorem Restrained.not_destructive (h : a.Restrained tunnelled t result) (hnot : ¬ Consent.GivenBefore a.yes t)
    : ∀ entry ∈ t, entry.1.isDestructive = false := by
  intro entry hentry
  obtain ⟨before, after, rfl⟩ := List.append_of_mem hentry
  rw [← Bool.not_eq_true]
  intro hdestructive
  exact hnot ((h.consented before entry after rfl hdestructive).append_right _)

end Action

def AnsweredFrom (input : Bytes) (t : List (Entry sessionInterface)) : Prop :=
  ∀ text answer, ⟨.question text, answer⟩ ∈ t → answer = Consent.firstLine input

theorem Consent.not_givenBefore_of_input {input : Bytes} {t : List (Entry sessionInterface)} (h : AnsweredFrom input t)
    (hinput : ¬ ∃ letter ∈ letters, input = [letter] ∨ ∃ rest, input = letter :: 0x0A :: rest)
    : ¬ GivenBefore false t := by
  rintro (hyes | ⟨text, answer, hasked, hgiven⟩)
  . cases hyes
  . rw [h text answer hasked] at hgiven
    exact hinput (given_firstLine_iff.mp hgiven)

theorem Invocation.restrained (i : Invocation) {t : List (Entry sessionInterface)} {result : Except Failure Unit}
    (h : i.run.run.Yields t result) : i.action.Restrained i.tunnelled t result := by
  have hsettings : AsksOnly SessionCall.Quiet i.loadSettings :=
    i.loadSettings_asksOnly.mono fun _ => SessionCall.Plain.quiet
  rcases Program.yields_run_bind.mp h with ⟨e, hload, rfl⟩ | ⟨settings, t₁, t₂, rfl, hload, hrest⟩
  . exact Action.restrained_of_quiet (hsettings t _ hload) fun _ => ⟨e, rfl⟩
  . exact Action.restrained_of_yields (hsettings t₁ _ hload) hrest

/--
Whatever is outside, a run does what cannot be undone only to reset the switch or to write the one register that is
asked for, once, and only with consent. An argument gives consent, or an answer does, if the input is a letter at its
first line's end. Without consent the run fails. It asks about no write that is impossible.
-/
theorem destructive_actions_need_consent (i : Invocation) (outside : Handler sessionInterface σ) (s : σ)
    : let t := i.run.run.transcript outside s
      let result := i.run.result outside s
      i.action.Restrained i.tunnelled t result
        ∧
      (∀ args, Invocation.ofArguments args = .ok i → i.action.yes = true →
        ∃ arg ∈ args, Grammar.Spells "yes" 'y' arg)
        ∧
      (∀ input, AnsweredFrom input t → i.action.yes = false →
        (¬ ∃ letter ∈ Consent.letters, input = [letter] ∨ ∃ rest, input = letter :: 0x0A :: rest) →
          (∀ entry ∈ t, entry.1.isDestructive = false) ∧ (i.action.isDestructive = true → ∃ e, result = .error e))
        ∧
      ∀ address bytes value yes, i.action = .writeRegister address bytes value yes →
        (∀ size, Context.Opened i.tunnelled t size → ∃ e, Window.validate size address bytes value = .error e) →
          Quiet t ∧ ∃ e, result = .error e := by
  intro t result
  have hrestrained : i.action.Restrained i.tunnelled t result := i.restrained (Program.yields_transcript outside _ s)
  refine ⟨hrestrained, ?_, ?_, ?_⟩
  . intro args
    exact Invocation.spelled_of_yes
  . intro input hanswered hyes hinput
    have hnot := Consent.not_givenBefore_of_input hanswered hinput
    rw [← hyes] at hnot
    refine ⟨hrestrained.not_destructive hnot, ?_⟩
    intro hdestructive
    exact hrestrained.unconsented hdestructive hnot
  . intro address bytes value yes haction
    rw [haction] at hrestrained
    exact hrestrained.impossible

namespace Simulation.Console

theorem input_of_no_question {c c' : Console} {t : List (Entry sessionInterface)}
    (hfollows : answer.Follows c t c') (h : ∀ entry ∈ t, entry.1.isQuestion = false) : c'.input = c.input := by
  induction hfollows with
  | nil => rfl
  | cons call _ ih =>
    obtain ⟨hcall, hrest⟩ := List.forall_mem_cons.mp h
    rw [ih hrest]
    cases call with
    | question => cases hcall
    | _ => rfl

theorem answeredFrom_input {c c' : Console} {t : List (Entry sessionInterface)} (hfollows : answer.Follows c t c')
    (honce : t.countP (·.1.isQuestion) ≤ 1) : AnsweredFrom c.input t := by
  intro text line hasked
  obtain ⟨before, after, rfl⟩ := List.append_of_mem hasked
  -- it is the only one, so nothing was taken of the input before
  have hnone : ∀ entry ∈ before, entry.1.isQuestion = false := by
    rw [List.countP_append, List.countP_cons_of_pos rfl] at honce
    have hbefore : before.countP (·.1.isQuestion) = 0 := by omega
    intro entry hentry
    exact Bool.eq_false_iff.mpr (List.countP_eq_zero.mp hbefore entry hentry)
  obtain ⟨middle, hbefore, hafter⟩ := Handler.follows_append.mp hfollows
  cases hafter with
  | cons _ _ =>
    rw [← input_of_no_question hbefore hnone]
    rfl

end Simulation.Console

open Simulation in
/--
A switch is reset once for a lone letter, and not at all for a whole word, an answer that ends in a carriage return, one
that is no text, or none. There is no question about the write of three bytes. An argument `-y` gives consent.
-/
theorem reset_takes_a_lone_letter
    : let i : Invocation := {
        device := some "switch", config := none, level := .warning, json := false, tunnelled := false
        action := .hardReset false
      }
      let console (input : Bytes) : Console := {
        opening := fun name => .ok (Switch.handle {} name 0 .gen4)
        input
      }
      let asked (input : Bytes) := i.run.run.transcript Console.answer (console input)
      let word : Bytes := [0x79, 0x65, 0x73, 0x0A]
      let write : Invocation := { i with tunnelled := true, action := .writeRegister 0 3 1 false }
      let consenting : Invocation := { i with action := .hardReset true }
      let arguments := ["--device", "switch", "hard-reset", "-y"]
      (AnsweredFrom word (asked word)
        ∧
      i.action.yes = false
        ∧
      (¬ ∃ letter ∈ Consent.letters, word = [letter] ∨ ∃ rest, word = letter :: 0x0A :: rest))
        ∧
      (∀ entry ∈ asked word, entry.1.isDestructive = false)
        ∧
      (∃ e, i.run.result Console.answer (console word) = .error e)
        ∧
      [[0x79, 0x0A], [0x59], [0x79, 0x0D, 0x0A], [0xFF, 0x0A], []].map
        (fun input => (asked input).countP (·.1.isDestructive)) = [1, 1, 0, 0, 0]
        ∧
      (∀ size, ∃ e, Window.validate size 0 3 1 = .error e)
        ∧
      Quiet (write.run.run.transcript Console.answer (console [0x79, 0x0A]))
        ∧
      (Invocation.ofArguments arguments = .ok consenting ∧ consenting.action.yes = true)
        ∧
      ∃ arg ∈ arguments, Grammar.Spells "yes" 'y' arg := by
  intro i console asked word write consenting arguments
  obtain ⟨hrestrained, _, hrefused, _⟩ := destructive_actions_need_consent i Console.answer (console word)
  have hanswered : AnsweredFrom word (asked word) :=
    Console.answeredFrom_input (Handler.follows_transcript _ _ _) hrestrained.askedOnce
  have hword : ¬ ∃ letter ∈ Consent.letters, word = [letter] ∨ ∃ rest, word = letter :: 0x0A :: rest := by
    rintro ⟨letter, _, hone | ⟨rest, hline⟩⟩
    . simp [word] at hone
    . simp [word] at hline
  obtain ⟨hquiet, herror⟩ := hrefused word hanswered rfl hword
  have hthree : ∀ size, ∃ e, Window.validate size 0 3 1 = .error e := fun _ => ⟨_, rfl⟩
  have hwrite := destructive_actions_need_consent write Console.answer (console [0x79, 0x0A])
  have hunasked := hwrite.2.2.2 0 3 1 false rfl fun size _ => hthree size
  have hparsed : Invocation.ofArguments arguments = .ok consenting :=
    eq_ok_of_toOption (by decide +kernel)
  have hspelled := (destructive_actions_need_consent consenting Console.answer (console word)).2.1 arguments hparsed rfl
  refine ⟨⟨hanswered, rfl, hword⟩, hquiet, herror rfl, ?_, hthree, hunasked.1, ⟨hparsed, rfl⟩, hspelled⟩
  decide +kernel

end PcieSwitch
