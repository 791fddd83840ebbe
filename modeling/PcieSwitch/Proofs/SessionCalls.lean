import PcieSwitch.CommandLine.Run
import PcieSwitch.Proofs.Sessions

/-!
This module contains bounds on what programs and sessions ask: whatever they are answered, they make no calls but some.
-/

namespace PcieSwitch
namespace Program

variable {I : Interface}

/--
Whatever a program is answered, it asks nothing but such calls.
-/
def AsksOnly (P : I.Call → Prop) (program : Program I α) : Prop :=
  ∀ t value, program.Yields t value → ∀ entry ∈ t, P entry.1

namespace AsksOnly

variable {P Q : I.Call → Prop} {program : Program I α}

theorem mono (h : AsksOnly P program) (hPQ : ∀ c, P c → Q c) : AsksOnly Q program := by
  intro t value hyields entry hentry
  exact hPQ entry.1 (h t value hyields entry hentry)

theorem pure (value : α) : AsksOnly P (Pure.pure value : Program I α) := by
  intro t _ hyields
  rw [(yields_done.mp hyields).1]
  apply List.forall_mem_nil

theorem call {c : I.Call} (h : P c) : AsksOnly P (Program.call c) := by
  intro t _ hyields
  obtain ⟨answer, rest, rfl, hrest⟩ := yields_ask.mp hyields
  rw [(yields_done.mp hrest).1, List.forall_mem_singleton]
  exact h

theorem bind {f : α → Program I β} (h : AsksOnly P program) (hf : ∀ value, AsksOnly P (f value))
    : AsksOnly P (program >>= f) := by
  intro t result hyields
  obtain ⟨middle, t₁, t₂, rfl, hfirst, hrest⟩ := yields_bind.mp hyields
  rw [List.forall_mem_append]
  exact ⟨h t₁ middle hfirst, hf middle t₂ result hrest⟩

theorem ofExcept (answer : Except ε α) : AsksOnly P (MonadExcept.ofExcept answer : ExceptT ε (Program I) α).run := by
  cases answer <;> apply pure

theorem map (h : AsksOnly P program) (f : α → β) : AsksOnly P (f <$> program) := by
  intro t result hyields
  obtain ⟨before, hbefore, _⟩ := yields_map.mp hyields
  exact h t before hbefore

theorem run_bind {work : ExceptT ε (Program I) α} {f : α → ExceptT ε (Program I) β} (h : AsksOnly P work.run)
    (hf : ∀ value t, work.run.Yields t (.ok value) → AsksOnly P (f value).run) : AsksOnly P (work >>= f).run := by
  intro t result hyields
  rcases yields_run_bind.mp hyields with ⟨e, hfail, _⟩ | ⟨value, t₁, t₂, rfl, hfirst, hrest⟩
  . exact h t _ hfail
  . rw [List.forall_mem_append]
    exact ⟨h t₁ _ hfirst, hf value t₁ hfirst t₂ result hrest⟩

theorem check_bind {check : Except ε α} {f : α → ExceptT ε (Program I) β} (hf : ∀ value, AsksOnly P (f value).run)
    : AsksOnly P (MonadExcept.ofExcept check >>= f).run := by
  refine run_bind (ofExcept check) ?_
  intro value _ _
  exact hf value

end AsksOnly

end Program

namespace Session

def AsksOnly (P : SessionCall → Prop) (session : Session α) : Prop :=
  Program.AsksOnly P session.run

namespace AsksOnly

variable {P Q : SessionCall → Prop} {session : Session α}

theorem mono (h : AsksOnly P session) (hPQ : ∀ c, P c → Q c) : AsksOnly Q session :=
  Program.AsksOnly.mono h hPQ

theorem pure (value : α) : AsksOnly P (Pure.pure value : Session α) :=
  Program.AsksOnly.pure _

theorem throw (e : Failure) : AsksOnly P (MonadExcept.throw e : Session α) :=
  Program.AsksOnly.pure _

theorem bind {f : α → Session β} (h : AsksOnly P session) (hf : ∀ value, AsksOnly P (f value))
    : AsksOnly P (session >>= f) :=
  Program.AsksOnly.run_bind h fun value _ _ => hf value

theorem mapM {f : α → Session β} {xs : List α} (hf : ∀ x ∈ xs, AsksOnly P (f x)) : AsksOnly P (xs.mapM f) := by
  induction xs with
  | nil =>
    rw [List.mapM_nil]
    apply pure
  | cons x xs ih =>
    rw [List.forall_mem_cons] at hf
    rw [List.mapM_cons]
    apply bind hf.1
    intro _
    exact (ih hf.2).bind fun _ => pure _

theorem ask {c : SessionCall} (h : P c) : AsksOnly P (Session.ask c) :=
  (Program.AsksOnly.call (I := sessionInterface) h).bind fun _ => Program.AsksOnly.pure _

theorem within (step : String) (h : AsksOnly P session) : AsksOnly P (Session.within step session) :=
  Program.AsksOnly.map h _

theorem ofDevice {work : ExceptT Error (Program sessionInterface) α} (h : Program.AsksOnly P work.run)
    : AsksOnly P (Session.ofDevice work) :=
  Program.AsksOnly.map h _

theorem onDevice {program : Program deviceInterface α} (h : Program.AsksOnly (fun c => P (.device c)) program)
    : Program.AsksOnly P (Session.onDevice program) := by
  intro t result hyields
  obtain ⟨asked, rfl, hasked⟩ := Program.yields_onDevice.mp hyields
  rw [List.forall_mem_map]
  exact h asked result hasked

theorem onMemory {program : Program memoryInterface α} (h : Program.AsksOnly (fun c => P (.memory c)) program)
    : Program.AsksOnly P (Session.onMemory program) := by
  intro t result hyields
  obtain ⟨asked, rfl, hasked⟩ := Program.yields_onMemory.mp hyields
  rw [List.forall_mem_map]
  exact h asked result hasked

theorem printLines {lines : List String} (h : ∀ data, P (.print data)) : AsksOnly P (Session.printLines lines) := by
  unfold Session.printLines
  induction lines with
  | nil => apply pure
  | cons line lines ih =>
    apply bind (ask (h _))
    intro _
    exact ih

end AsksOnly

def Raises (P : Failure → Prop) (session : Session α) : Prop :=
  ∀ t e, session.run.Yields t (.error e) → P e

namespace Raises

variable {P : Failure → Prop} {session : Session α}

theorem pure (value : α) : Raises P (Pure.pure value : Session α) := by
  intro t e hyields
  cases (Program.yields_done.mp hyields).2

theorem throw {e : Failure} (h : P e) : Raises P (MonadExcept.throw e : Session α) := by
  intro t other hyields
  cases (Program.yields_done.mp hyields).2
  exact h

theorem ask (c : SessionCall) : Raises P (Session.ask c) := by
  intro t e hyields
  obtain ⟨answer, rest, rfl, hrest⟩ := Program.yields_ask.mp hyields
  cases (Program.yields_done.mp hrest).2

theorem lift (program : Program sessionInterface α) : Raises P (ExceptT.lift program) := by
  intro t e hyields
  obtain ⟨_, _, hvalue⟩ := Program.yields_map.mp hyields
  cases hvalue

theorem within {step : String} (h : ∀ cause, P (.within step cause)) : Raises P (Session.within step session) := by
  intro t e hyields
  obtain ⟨inner, _, hinner⟩ := yields_within.mp hyields
  cases inner with
  | ok _ => cases hinner
  | error cause =>
    cases hinner
    exact h cause

theorem bind {f : α → Session β} (h : Raises P session) (hf : ∀ value, Raises P (f value))
    : Raises P (session >>= f) := by
  intro t e hyields
  rcases Program.yields_run_bind.mp hyields with ⟨cause, hfail, heq⟩ | ⟨value, t₁, t₂, rfl, _, hrest⟩
  . cases heq
    exact h t e hfail
  . exact hf value t₂ e hrest

end Raises
end Session

def SessionCall.Plain : SessionCall → Prop
  | .device _ | .memory _ | .question _ => False
  | _ => True

theorem filterMap_exchanged?_of_plain {t : List (Entry sessionInterface)} (h : ∀ entry ∈ t, entry.1.Plain)
    : t.filterMap Entry.exchanged? = [] := by
  rw [List.filterMap_eq_nil_iff]
  rintro ⟨c, answer⟩ hentry
  have hplain := h _ hentry
  cases c with
  | device => cases hplain
  | _ => rfl

def SessionCall.ReadsSettings : SessionCall → Prop
  | .variable _ | .isThere _ | .contents _ => True
  | _ => False

theorem SessionCall.ReadsSettings.plain {c : SessionCall} (h : c.ReadsSettings) : c.Plain := by
  cases c with
  | device | memory | question => cases h
  | _ => trivial

section

open Session

theorem Context.openDevice_asks {P : SessionCall → Prop} (c : Context) (hopen : ∀ name, P (.openDevice name))
    (hlog : ∀ level line, P (.log level line)) : AsksOnly P c.openDevice := by
  unfold Context.openDevice
  split
  . apply AsksOnly.throw
  . refine AsksOnly.bind (AsksOnly.within _ ?_) fun h => AsksOnly.bind (AsksOnly.ask (hlog _ _)) fun _ => AsksOnly.pure h
    exact (Program.AsksOnly.call (I := sessionInterface) (hopen _)).bind fun _ => Program.AsksOnly.pure _

theorem Context.openDevice_asksOnly (c : Context) : AsksOnly SessionCall.Plain c.openDevice :=
  c.openDevice_asks (fun _ => trivial) fun _ _ => trivial

theorem Context.output_asks {P : SessionCall → Prop} (c : Context) (hprint : ∀ data, P (.print data)) (json : Json)
    (lines : List String) : AsksOnly P (c.output json lines) := by
  unfold Context.output
  split
  . exact AsksOnly.ask (hprint _)
  . exact AsksOnly.printLines hprint

theorem Context.output_asksOnly (c : Context) (json : Json) (lines : List String)
    : AsksOnly SessionCall.Plain (c.output json lines) :=
  c.output_asks (fun _ => trivial) json lines

theorem Settings.ofFile_asks (path : String)
    : Program.AsksOnly SessionCall.ReadsSettings (Settings.ofFile Session.files path).run := by
  have htext : Program.AsksOnly SessionCall.ReadsSettings (Session.files.text path) := by
    refine Program.AsksOnly.bind (Program.AsksOnly.call (I := sessionInterface) (c := .contents path) trivial) ?_
    intro contents
    split
    . apply Program.AsksOnly.pure
    . split <;> apply Program.AsksOnly.pure
  refine Program.AsksOnly.run_bind (htext.bind fun _ => Program.AsksOnly.pure _) ?_
  intro text _ _
  split
  . apply Program.AsksOnly.pure
  . split <;> apply Program.AsksOnly.pure

theorem Invocation.loadSettings_asks (i : Invocation) : AsksOnly SessionCall.ReadsSettings i.loadSettings := by
  unfold Invocation.loadSettings
  refine AsksOnly.bind (AsksOnly.ask trivial) ?_
  intro environment
  have hload : Program.AsksOnly SessionCall.ReadsSettings (Settings.load Session.files i.config environment).run := by
    unfold Settings.load
    split
    . apply Settings.ofFile_asks
    . refine Program.AsksOnly.run_bind ?_ ?_
      . exact (Program.AsksOnly.call (I := sessionInterface) trivial).bind fun _ => Program.AsksOnly.pure _
      . intro isThere _ _
        split
        . apply Settings.ofFile_asks
        . apply Program.AsksOnly.pure
  apply AsksOnly.bind (hload.bind fun _ => Program.AsksOnly.pure _)
  intro settings
  split
  . apply AsksOnly.pure
  . apply AsksOnly.throw

theorem Invocation.loadSettings_asksOnly (i : Invocation) : AsksOnly SessionCall.Plain i.loadSettings :=
  i.loadSettings_asks.mono fun _ => SessionCall.ReadsSettings.plain

theorem Invocation.loadSettings_raises (i : Invocation) : Raises (∃ e, · = .settings e) i.loadSettings := by
  unfold Invocation.loadSettings
  refine Raises.bind (Raises.ask _) fun environment => Raises.bind (Raises.lift _) fun settings => ?_
  split
  . apply Raises.pure
  . exact Raises.throw ⟨_, rfl⟩

end

end PcieSwitch
