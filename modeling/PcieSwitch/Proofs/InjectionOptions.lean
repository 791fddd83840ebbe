import PcieSwitch.Proofs.FeatureChains
import PcieSwitch.Proofs.OpenedSwitches
import PcieSwitch.Simulation.Console

/-!
This module contains what an injection of a link error takes from its options. Each kind of injection uses some of them
and ignores the others, apart from the notices that say so. An injection is one request, and what is wrong with its
options is found before this is sent.
-/

namespace PcieSwitch

def SessionCall.ReachesSwitch : SessionCall → Prop
  | .device (.exchange _) | .device (.event _) | .memory _ => True
  | _ => False

def SessionCall.CommandsOnly (c : SessionCall) : Prop :=
  c.ReachesSwitch → ∃ x, c = .device (.exchange x)

def SessionCall.isPrint : SessionCall → Bool
  | .print _ => true
  | _ => false

theorem SessionCall.commandsOnly_of_not_reachesSwitch {c : SessionCall} (h : ¬ c.ReachesSwitch) : c.CommandsOnly :=
  fun hreaches => absurd hreaches h

theorem SessionCall.commandsOnly_exchange (x : Exchange) : SessionCall.CommandsOnly (.device (.exchange x)) :=
  fun _ => ⟨x, rfl⟩

theorem SessionCall.ReadsSettings.commandsOnly {c : SessionCall} (h : c.ReadsSettings) : c.CommandsOnly := by
  cases c with
  | device | memory => cases h
  | _ => exact commandsOnly_of_not_reachesSwitch id

namespace Handle

open Program SessionCall

variable (h : Handle)

theorem commandsOnly_log (message : String) (values : List (String × String))
    : AsksOnly (fun c => CommandsOnly (.device c)) (h.log message values).run :=
  (AsksOnly.call (I := deviceInterface) (commandsOnly_of_not_reachesSwitch id)).bind fun _ => AsksOnly.pure _

theorem commandsOnly_send (c : Command) (payload : Bytes) (replyLength : Nat)
    : AsksOnly (fun c => CommandsOnly (.device c)) (h.send c payload replyLength).run := by
  have hexchange : AsksOnly (fun c => CommandsOnly (.device c))
      (Operation.ask (.exchange ⟨c.id, payload, replyLength⟩)).run :=
    (AsksOnly.call (I := deviceInterface) (commandsOnly_exchange _)).bind fun _ => AsksOnly.pure _
  unfold send
  dsimp only
  split
  . apply AsksOnly.pure
  . split
    . apply AsksOnly.pure
    . refine (h.commandsOnly_log _ _).run_bind fun _ _ _ => hexchange.run_bind fun answer _ _ => ?_
      cases answer with
      | ok reply => apply AsksOnly.pure
      | error e => exact (h.commandsOnly_log _ _).run_bind fun _ _ _ => AsksOnly.pure _

theorem commandsOnly_requestWord (r : Request) : AsksOnly (fun c => CommandsOnly (.device c)) (h.requestWord r).run :=
  (h.commandsOnly_send _ _ _).run_bind fun _ _ _ => AsksOnly.pure _

end Handle

namespace InjectionArguments

def request (a : InjectionArguments) : Request :=
  match a.kind with
  | .dllp => .injectDllp a.port (a.data.getD 0)
  | .dllpCrc => .injectDllpCrc a.port (a.enable != 0) a.dllpCrcRate
  | .tlpLcrc => .injectTlpLcrc a.port (a.enable != 0) a.tlpLcrcRate
  | .tlpSequence => .injectTlpSequence a.port
  | .nack => .injectNack a.port a.sequence a.count
  | .creditTimeout => .injectCreditTimeout a.port

def notices (a : InjectionArguments) : List String :=
  a.ignored.map fun option => "Ignoring " ++ option ++ " flag, not valid for the currently selected command."

def conflicts (a : InjectionArguments) : Bool :=
  a.dllpCrcRate ≠ 0 ∧ a.tlpLcrcRate ≠ 0

def refused (a : InjectionArguments) (generation : Generation) : Bool :=
  48 ≤ a.port.toNat ||
    match a.kind with
    | .dllpCrc => 4096 < a.dllpCrcRate.toNat
    | .tlpLcrc => 7 < a.tlpLcrcRate.toNat
    | .nack => 4095 < a.sequence.toNat
    | .creditTimeout => generation ≠ .gen5
    | .dllp | .tlpSequence => false

/--
Two injections are of the same kind at the same port, and have the same values as far as this kind uses them.
-/
structure SameInjection (a b : InjectionArguments) : Prop where
  kind : a.kind = b.kind
  port : a.port = b.port
  used :
    match a.kind with
    | .dllp => a.data.getD 0 = b.data.getD 0
    | .dllpCrc => (a.enable ≠ 0 ↔ b.enable ≠ 0) ∧ a.dllpCrcRate = b.dllpCrcRate
    | .tlpLcrc => (a.enable ≠ 0 ↔ b.enable ≠ 0) ∧ a.tlpLcrcRate = b.tlpLcrcRate
    | .nack => a.sequence = b.sequence ∧ a.count = b.count
    | .tlpSequence | .creditTimeout => True

def refuseOwn (a : InjectionArguments) : Option Error :=
  match a.kind with
  | .dllpCrc => refuseValue "DLLP CRC rate" a.dllpCrcRate.toNat 4096
  | .tlpLcrc => refuseValue "TLP LCRC rate" a.tlpLcrcRate.toNat 7
  | .nack => refuseValue "sequence number" a.sequence.toNat 4095
  | .dllp | .tlpSequence | .creditTimeout => none

def refusal? (a : InjectionArguments) (generation : Generation) : Option Failure :=
  if a.kind = .creditTimeout ∧ generation ≠ .gen5 then some .creditTimeoutUnsupported
  else (a.refuseOwn.or (refusePort a.port)).map fun e => .within "linkerr-inject" (.device e)

section

variable (a : InjectionArguments)

theorem isFixed_request : a.request.isFixed = true := by
  unfold request
  cases a.kind <;> rfl

theorem command_request : a.request.command = .errorInjection := by
  unfold request
  cases a.kind <;> rfl

theorem isSome_refusal? (generation : Generation) : (a.refusal? generation).isSome = a.refused generation := by
  have hport : (refusePort a.port).isSome = decide (48 ≤ a.port.toNat) := by
    unfold refusePort maxPorts
    split <;> simp_all
  have hvalue : ∀ what value max, (refuseValue what value max).isSome = decide (max < value) := by
    intro what value max
    unfold refuseValue
    split <;> simp_all
  unfold refusal? refused refuseOwn
  cases a.kind with
  | dllp | tlpSequence => simp [hport]
  | dllpCrc | tlpLcrc | nack => simp [hport, hvalue, Bool.or_comm]
  | creditTimeout =>
    by_cases hgeneration : generation = .gen5
    . simp [hgeneration, hport]
    . simp [hgeneration]

end

section

variable {a : InjectionArguments} {h : Handle}

theorem operation_of_refused {e : Error} (hgeneration : ¬ (a.kind = .creditTimeout ∧ h.generation ≠ .gen5))
    (hrefused : a.refuseOwn.or (refusePort a.port) = some e) : a.operation h = throw e := by
  unfold refuseOwn at hrefused
  unfold operation
  cases hkind : a.kind with
  | dllp | tlpSequence =>
    rw [hkind] at hrefused
    exact Handle.inject_of_refused hrefused
  | dllpCrc | tlpLcrc | nack =>
    rw [hkind] at hrefused
    exact Handle.inject_value_of_refused hrefused
  | creditTimeout =>
    rw [hkind] at hrefused
    have hgen5 : h.generation = .gen5 := by simpa [hkind] using hgeneration
    apply Handle.injectCreditTimeout_of_refused
    rw [hgen5]
    exact hrefused

theorem operation_of_accepted (hgeneration : ¬ (a.kind = .creditTimeout ∧ h.generation ≠ .gen5))
    (haccepted : a.refuseOwn.or (refusePort a.port) = none) : a.operation h = h.requestWord a.request := by
  unfold refuseOwn at haccepted
  unfold operation request
  cases hkind : a.kind with
  | dllp | tlpSequence =>
    rw [hkind] at haccepted
    exact Handle.inject_of_accepted haccepted _
  | dllpCrc | tlpLcrc | nack =>
    rw [hkind] at haccepted
    exact Handle.inject_value_of_accepted haccepted _
  | creditTimeout =>
    rw [hkind] at haccepted
    have hgen5 : h.generation = .gen5 := by simpa [hkind] using hgeneration
    apply Handle.injectCreditTimeout_of_accepted
    rw [hgen5]
    exact haccepted

end

namespace SameInjection

variable {a b : InjectionArguments}

theorem eq_of_enable (h : a.enable ≠ 0 ↔ b.enable ≠ 0) : (a.enable != 0) = (b.enable != 0) := by
  rw [Bool.eq_iff_iff, bne_iff_ne, bne_iff_ne, h]

theorem same_to_switch (hsame : SameInjection a b)
    : a.operation = b.operation ∧ a.request = b.request ∧ a.refusal? = b.refusal? := by
  obtain ⟨hkind, hport, hused⟩ := hsame
  unfold operation request refusal? refuseOwn
  rw [← hkind, ← hport]
  cases hcase : a.kind with
  | dllp =>
    rw [hcase] at hused
    dsimp only at hused
    rw [hused]
    exact ⟨rfl, rfl, rfl⟩
  | dllpCrc | tlpLcrc =>
    rw [hcase] at hused
    obtain ⟨henable, hrate⟩ := hused
    rw [eq_of_enable henable, hrate]
    exact ⟨rfl, rfl, rfl⟩
  | nack =>
    rw [hcase] at hused
    obtain ⟨hsequence, hcount⟩ := hused
    rw [hsequence, hcount]
    exact ⟨rfl, rfl, rfl⟩
  | tlpSequence | creditTimeout => exact ⟨rfl, rfl, rfl⟩

end SameInjection

end InjectionArguments

namespace Context

open Session InjectionArguments

def injectOn (a : InjectionArguments) (h : Handle) : Session Unit := do
  if a.kind = .creditTimeout ∧ h.generation ≠ .gen5 then
    throw .creditTimeoutUnsupported
  let status ← Session.within "linkerr-inject" (Session.perform (a.operation h))
  Session.log .debug "injection complete" [("port", toString a.port), ("status", toString status)]

def outcome (answer : Except Error Bytes) : Except Failure Unit :=
  (answer.map fun _ => ()).mapError fun cause => .within "linkerr-inject" (.device cause)

theorem outcome_error (cause : Error) : outcome (.error cause) = .error (.within "linkerr-inject" (.device cause)) := by
  rfl

theorem outcome_ok (reply : Bytes) : outcome (.ok reply) = .ok () := by
  rfl

def injectQuietly (c : Context) (a : InjectionArguments) : Session Unit :=
  if a.conflicts then throw .conflictingRates else c.openDevice >>= injectOn a

variable {c d : Context} {a b : InjectionArguments} {h : Handle}

theorem inject_eq (c : Context) (a : InjectionArguments)
    : c.inject a = (do printLines a.notices; c.injectQuietly a) := by
  unfold inject notices injectQuietly conflicts
  congr 1
  funext _
  by_cases hconflicts : a.dllpCrcRate ≠ 0 ∧ a.tlpLcrcRate ≠ 0
  . rw [if_pos hconflicts, decide_eq_true hconflicts]
    rfl
  . rw [if_neg hconflicts, decide_eq_false hconflicts]
    rfl

theorem shows_within_perform_log {operation : Operation α} {step message : String} {level : LogLevel}
    {values : α → List (String × String)} {sent : List Sent} {printed : List Bytes} {result : Except Failure Unit}
    : (do
        let value ← within step (perform operation)
        Session.log level message (values value)).Shows sent printed result
        ↔
      ∃ inner,
        operation.Sends sent inner
          ∧
        printed = []
          ∧
        result = (inner.map fun _ => ()).mapError fun cause => .within step (.device cause) := by
  rw [shows_bind]
  simp only [shows_within_perform, shows_log]
  constructor
  . rintro (⟨e, ⟨inner, hsends, rfl, he⟩, rfl⟩ | ⟨value, _, _, _, _, rfl, rfl, ⟨inner, hsends, rfl, hvalue⟩, rfl, rfl, rfl⟩)
    . refine ⟨inner, hsends, rfl, ?_⟩
      cases inner with
      | error cause =>
        cases he
        rfl
      | ok value => cases he
    . refine ⟨inner, ?_, rfl, ?_⟩
      . rwa [List.append_nil]
      . cases inner with
        | error cause => cases hvalue
        | ok value => rfl
  . rintro ⟨inner, hsends, rfl, rfl⟩
    cases inner with
    | error cause => exact .inl ⟨_, ⟨_, hsends, rfl, rfl⟩, rfl⟩
    | ok value =>
      exact .inr ⟨value, sent, [], [], [], (List.append_nil sent).symm, rfl, ⟨_, hsends, rfl, rfl⟩, rfl, rfl, rfl⟩

theorem shows_injectOn {sent : List Sent} {printed : List Bytes} {result : Except Failure Unit}
    : (injectOn a h).Shows sent printed result
        ↔
      printed = []
        ∧
      ((∃ e, a.refusal? h.generation = some e ∧ sent = [] ∧ result = .error e) ∨
        (a.refusal? h.generation = none
          ∧
        ∃ answer, sent = [(a.request.exchange h.generation, answer)] ∧ result = outcome answer)) := by
  unfold injectOn refusal?
  dsimp only
  split
  . refine shows_throw.trans ?_
    simp [and_left_comm]
  . next hgeneration =>
    refine shows_within_perform_log.trans ?_
    cases hrefused : a.refuseOwn.or (refusePort a.port) with
    | some e =>
      rw [operation_of_refused hgeneration hrefused]
      simp only [Operation.sends_throw]
      constructor
      . rintro ⟨_, ⟨rfl, rfl⟩, rfl, rfl⟩
        exact ⟨rfl, .inl ⟨_, rfl, rfl, rfl⟩⟩
      . rintro ⟨rfl, ⟨_, ⟨⟩, rfl, rfl⟩ | ⟨⟨⟩, _⟩⟩
        exact ⟨_, ⟨rfl, rfl⟩, rfl, rfl⟩
    | none =>
      rw [operation_of_accepted hgeneration hrefused]
      unfold Handle.requestWord
      simp only [Handle.sends_request_pure (Request.fits_of_isFixed a.isFixed_request)]
      constructor
      . rintro ⟨_, ⟨answer, rfl, rfl⟩, rfl, rfl⟩
        rw [except_map_map]
        exact ⟨rfl, .inr ⟨rfl, answer, rfl, rfl⟩⟩
      . rintro ⟨rfl, ⟨_, ⟨⟩, _⟩ | ⟨_, answer, rfl, rfl⟩⟩
        refine ⟨_, ⟨answer, rfl, rfl⟩, rfl, ?_⟩
        rw [except_map_map]
        rfl

theorem injectOn_asksOnly {P : SessionCall → Prop} (a : InjectionArguments) (h : Handle)
    (hlog : ∀ level line, P (.log level line)) (hword : AsksOnly P (perform (h.requestWord a.request)))
    : AsksOnly P (injectOn a h) := by
  unfold injectOn
  dsimp only
  split
  . apply AsksOnly.throw
  . next hgeneration =>
    have hoperation : AsksOnly P (perform (a.operation h)) := by
      cases hrefused : a.refuseOwn.or (refusePort a.port) with
      | some e =>
        rw [operation_of_refused hgeneration hrefused]
        apply AsksOnly.throw
      | none =>
        rw [operation_of_accepted hgeneration hrefused]
        exact hword
    apply (AsksOnly.within _ hoperation).bind
    intro status
    exact AsksOnly.ask (hlog _ _)

theorem commandsOnly_injectOn (a : InjectionArguments) (h : Handle)
    : AsksOnly SessionCall.CommandsOnly (injectOn a h) := by
  apply injectOn_asksOnly
  . intro level line
    exact SessionCall.commandsOnly_of_not_reachesSwitch id
  . exact AsksOnly.ofDevice (AsksOnly.onDevice (h.commandsOnly_requestWord a.request))

theorem opensNone_injectOn (a : InjectionArguments) (h : Handle) : AsksOnly SessionCall.OpensNone (injectOn a h) := by
  apply injectOn_asksOnly
  . intro level line
    trivial
  . exact AsksOnly.perform (fun _ => trivial) _

theorem commandsOnly_inject (c : Context) (a : InjectionArguments) : AsksOnly SessionCall.CommandsOnly (c.inject a) := by
  have hother : ∀ {call : SessionCall}, ¬ call.ReachesSwitch → call.CommandsOnly :=
    SessionCall.commandsOnly_of_not_reachesSwitch
  rw [inject_eq]
  refine AsksOnly.bind (AsksOnly.printLines fun _ => hother id) fun _ => ?_
  unfold injectQuietly
  split
  . apply AsksOnly.throw
  . exact (c.openDevice_asks (fun _ => hother id) fun _ _ => hother id).bind (commandsOnly_injectOn a)

theorem injectQuietly_eq (hdevice : c.device = d.device) (hsame : SameInjection a b) (ha : a.conflicts = false)
    (hb : b.conflicts = false) : c.injectQuietly a = d.injectQuietly b := by
  have hopen : c.openDevice = d.openDevice := by
    unfold openDevice
    rw [hdevice]
  have hinject : injectOn a = injectOn b := by
    obtain ⟨hoperation, _, _⟩ := hsame.same_to_switch
    funext h
    unfold injectOn
    rw [hsame.kind, hsame.port, hoperation]
  unfold injectQuietly
  rw [ha, hb, hopen, hinject]

theorem inject_cases {t : List (Entry sessionInterface)} {result : Except Failure Unit}
    (h : (c.inject a).run.Yields t result)
    : (t.filterMap Entry.opened? = [] ∧ t.filterMap Entry.exchanged? = [] ∧ ∃ e, result = .error e) ∨
      (a.conflicts = false ∧ ∃ handle, t.filterMap Entry.opened? = [handle]
        ∧ ∃ printed, (injectOn a handle).Shows (t.filterMap Entry.exchanged?) printed result) := by
  rw [inject_eq] at h
  have hnotices : ∀ {lines t r}, (printLines lines).run.Yields t r →
      t.filterMap Entry.opened? = [] ∧ t.filterMap Entry.exchanged? = [] ∧ r = .ok () := by
    intro lines t r hprint
    obtain ⟨hsent, _, hr⟩ := shows_printLines.mp ⟨t, hprint, rfl, rfl⟩
    exact ⟨filterMap_opened?_of_opensNone (AsksOnly.printLines (fun _ => trivial) t r hprint), hsent, hr⟩
  rcases Program.yields_run_bind.mp h with ⟨e, hprint, _⟩ | ⟨_, t₁, t₂, rfl, hprint, hrest⟩
  . cases (hnotices hprint).2.2
  . obtain ⟨hopened, hsent, _⟩ := hnotices hprint
    rw [List.filterMap_append, List.filterMap_append, hopened, hsent, List.nil_append, List.nil_append]
    unfold injectQuietly at hrest
    split at hrest
    . obtain ⟨rfl, rfl⟩ := Program.yields_done.mp hrest
      exact .inl ⟨rfl, rfl, _, rfl⟩
    . next hconflicts =>
      rcases yields_openDevice_bind (opensNone_injectOn a) hrest with ⟨hnone, hnothing, _, hfail⟩ | ⟨handle, hone, hshows⟩
      . exact .inl ⟨hnone, hnothing, hfail⟩
      . exact .inr ⟨Bool.eq_false_iff.mpr hconflicts, handle, hone, _, hshows⟩

end Context

namespace Invocation

open Session InjectionArguments

variable {i j : Invocation} {a b : InjectionArguments}

theorem commandsOnly_of_inject (haction : i.action = .inject a) : AsksOnly SessionCall.CommandsOnly i.run := by
  apply AsksOnly.bind (i.loadSettings_asks.mono fun _ => SessionCall.ReadsSettings.commandsOnly)
  intro settings
  rw [haction]
  exact (i.context settings).commandsOnly_inject a

theorem injection_cases (haction : i.action = .inject a) {t : List (Entry sessionInterface)} {result : Except Failure Unit}
    (h : i.run.run.Yields t result)
    : (t.filterMap Entry.opened? = [] ∧ t.filterMap Entry.exchanged? = [] ∧ ∃ e, result = .error e) ∨
      (a.conflicts = false ∧ ∃ handle, t.filterMap Entry.opened? = [handle]
        ∧ ∃ printed, (Context.injectOn a handle).Shows (t.filterMap Entry.exchanged?) printed result) := by
  have hsettings : ∀ {t r}, i.loadSettings.run.Yields t r →
      t.filterMap Entry.opened? = [] ∧ t.filterMap Entry.exchanged? = [] := by
    intro t r hload
    have hreads := i.loadSettings_asks t r hload
    have hopens : ∀ entry ∈ t, entry.1.OpensNone := fun entry hentry => (hreads entry hentry).opensNone
    exact ⟨filterMap_opened?_of_opensNone hopens,
      filterMap_exchanged?_of_plain fun entry hentry => (hreads entry hentry).plain⟩
  rcases Program.yields_run_bind.mp h with ⟨e, hload, rfl⟩ | ⟨settings, t₁, t₂, rfl, hload, hrest⟩
  . exact .inl ⟨(hsettings hload).1, (hsettings hload).2, e, rfl⟩
  . rw [haction] at hrest
    rw [List.filterMap_append, List.filterMap_append, (hsettings hload).1, (hsettings hload).2, List.nil_append,
      List.nil_append]
    exact Context.inject_cases hrest

theorem loadSettings_eq (hconfig : i.config = j.config) : i.loadSettings = j.loadSettings := by
  unfold loadSettings
  rw [hconfig]

theorem exists_run_of_sameInjection (hi : i.action = .inject a) (hj : j.action = .inject b) (hsame : SameInjection a b)
    (ha : a.conflicts = false) (hb : b.conflicts = false) (hdevice : i.device = j.device) (hconfig : i.config = j.config)
    {t : List (Entry sessionInterface)} {result : Except Failure Unit} (h : i.run.run.Yields t result)
    : ∃ u, j.run.run.Yields u result ∧ u.filter (!·.1.isPrint) = t.filter (!·.1.isPrint) := by
  have hprints : ∀ {lines t r}, (printLines lines).run.Yields t r → t.filter (!·.1.isPrint) = [] := by
    intro lines t r hyields
    rw [List.filter_eq_nil_iff]
    intro entry hentry
    simp [AsksOnly.printLines (P := fun c => c.isPrint = true) (fun _ => rfl) t r hyields entry hentry]
  have hload : i.loadSettings = j.loadSettings := loadSettings_eq hconfig
  rcases Program.yields_run_bind.mp h with ⟨e, hfail, rfl⟩ | ⟨settings, t₁, t₂, rfl, hsettings, hrest⟩
  . rw [hload] at hfail
    exact ⟨t, Program.yields_run_bind.mpr (.inl ⟨e, hfail, rfl⟩), rfl⟩
  . have hcontext : (i.context settings).device = (j.context settings).device := by
      unfold context
      rw [hdevice]
    rw [hi] at hrest
    change ((i.context settings).inject a).run.Yields t₂ result at hrest
    rw [Context.inject_eq] at hrest
    rcases Program.yields_run_bind.mp hrest with ⟨e, hprint, _⟩ | ⟨_, told, t₃, rfl, hprint, hquiet⟩
    . cases (shows_printLines.mp ⟨t₂, hprint, rfl, rfl⟩).2.2
    . rw [Context.injectQuietly_eq hcontext hsame ha hb] at hquiet
      have hshown : (printLines b.notices).Shows [] (linePieces b.notices) (.ok ()) :=
        shows_printLines.mpr ⟨rfl, rfl, rfl⟩
      obtain ⟨others, hothers, _⟩ := hshown
      refine ⟨t₁ ++ (others ++ t₃), ?_, ?_⟩
      . rw [hload] at hsettings
        apply Program.yields_run_bind.mpr
        refine .inr ⟨settings, t₁, _, rfl, hsettings, ?_⟩
        rw [hj]
        change ((j.context settings).inject b).run.Yields _ result
        rw [Context.inject_eq]
        exact Program.yields_run_bind.mpr (.inr ⟨(), others, t₃, rfl, hothers, hquiet⟩)
      . simp only [List.filter_append, hprints hprint, hprints hothers]

end Invocation

namespace InjectionArguments

def sentTo? (a : InjectionArguments) (h : Handle) : Option Exchange :=
  if a.conflicts || a.refused h.generation then none else some (a.request.exchange h.generation)

variable {a b : InjectionArguments} {h : Handle}

theorem sentTo?_eq (ha : a.conflicts = false)
    : a.sentTo? h = if (a.refusal? h.generation).isSome then none else some (a.request.exchange h.generation) := by
  unfold sentTo?
  rw [ha, isSome_refusal?, Bool.false_or]

end InjectionArguments

open InjectionArguments

/--
A run of an injection reaches the switch with nothing but the one request that was asked for, to the switch that it
opened. It sends nothing if both rates are given or the switch cannot do the injection, and it succeeds exactly if its
request is answered.
-/
structure InjectionArguments.Injects (a : InjectionArguments) (t : List (Entry sessionInterface))
    (result : Except Failure Unit) : Prop where
  once : (t.filterMap Entry.opened?).length ≤ 1
  sent : (t.filterMap Entry.exchanged?).map Prod.fst = (t.filterMap Entry.opened?).filterMap a.sentTo?
  command : ∀ x ∈ (t.filterMap Entry.exchanged?).map Prod.fst, x.command = Command.errorInjection.id
  only : ∀ entry ∈ t, entry.1.ReachesSwitch → ∃ x, entry.1 = .device (.exchange x)
  result : result = .ok () ↔ ∃ x reply, t.filterMap Entry.exchanged? = [(x, .ok reply)]

theorem Invocation.injects_of_yields {i : Invocation} {a : InjectionArguments} (haction : i.action = .inject a)
    {t : List (Entry sessionInterface)} {result : Except Failure Unit} (h : i.run.run.Yields t result)
    : a.Injects t result := by
  have honly := commandsOnly_of_inject haction t result h
  rcases injection_cases haction h with ⟨hnone, hnothing, e, rfl⟩ | ⟨hclear, handle, hone, printed, hshows⟩
  . refine ⟨?_, ?_, ?_, honly, ?_⟩ <;> simp [hnone, hnothing]
  . obtain ⟨_, ⟨e, hrefused, hnothing, rfl⟩ | ⟨haccepted, answer, hsent, rfl⟩⟩ := Context.shows_injectOn.mp hshows
    . have hsentTo : a.sentTo? handle = none := by
        rw [sentTo?_eq hclear, hrefused]
        rfl
      refine ⟨?_, ?_, ?_, honly, ?_⟩ <;> simp [hone, hnothing, hsentTo]
    . have hsentTo : a.sentTo? handle = some (a.request.exchange handle.generation) := by
        rw [sentTo?_eq hclear, haccepted]
        rfl
      have hcommand : (a.request.exchange handle.generation).command = Command.errorInjection.id := by
        rw [← a.command_request]
        rfl
      refine ⟨?_, ?_, ?_, honly, ?_⟩
      . simp [hone]
      . simp [hone, hsent, hsentTo]
      . simp [hsent, hcommand]
      . rw [hsent]
        cases answer with
        | error e => simp [Context.outcome_error]
        | ok reply => simp [Context.outcome_ok]

section

variable {i j : Invocation} {a b : InjectionArguments} {t u : List (Entry sessionInterface)}
  {result other : Except Failure Unit}

theorem Invocation.sent_eq_of_sameInjection (hi : i.action = .inject a) (hj : j.action = .inject b)
    (hsame : SameInjection a b) (ht : i.run.run.Yields t result) (hu : j.run.run.Yields u other)
    (hgeneration : (t.filterMap Entry.opened?).map Handle.generation = (u.filterMap Entry.opened?).map Handle.generation)
    : (t.filterMap Entry.exchanged?).map Prod.fst = (u.filterMap Entry.exchanged?).map Prod.fst
        ∧
      (t.filterMap Entry.exchanged? = u.filterMap Entry.exchanged? →
        (result = .ok () ↔ other = .ok ()) ∧ (t.filterMap Entry.opened? ≠ [] → result = other)) := by
  obtain ⟨_, hrequest, hrefusal⟩ := hsame.same_to_switch
  rcases injection_cases hi ht with ⟨hnone, hnothing, e, rfl⟩ | ⟨_, handle, hone, _, hshows⟩
  . rcases injection_cases hj hu with ⟨_, hnothing', e', rfl⟩ | ⟨_, handle', hone', _⟩
    . simp [hnone, hnothing, hnothing']
    . simp [hnone, hone'] at hgeneration
  . rcases injection_cases hj hu with ⟨hnone', _⟩ | ⟨_, handle', hone', _, hshows'⟩
    . simp [hone, hnone'] at hgeneration
    . have hsameGeneration : handle.generation = handle'.generation := by simpa [hone, hone'] using hgeneration
      obtain ⟨_, hcases⟩ := Context.shows_injectOn.mp hshows
      obtain ⟨_, hcases'⟩ := Context.shows_injectOn.mp hshows'
      rw [← hrefusal, ← hrequest, ← hsameGeneration] at hcases'
      rcases hcases with ⟨e, hrefused, hnothing, rfl⟩ | ⟨haccepted, answer, hsent, rfl⟩
      . rcases hcases' with ⟨e', hrefused', hnothing', rfl⟩ | ⟨haccepted', _⟩
        . rw [hrefused] at hrefused'
          cases hrefused'
          simp [hnothing, hnothing']
        . rw [hrefused] at haccepted'
          cases haccepted'
      . rcases hcases' with ⟨e', hrefused', _⟩ | ⟨_, answer', hsent', rfl⟩
        . rw [haccepted] at hrefused'
          cases hrefused'
        . rw [hsent, hsent']
          refine ⟨rfl, ?_⟩
          intro hanswers
          cases hanswers
          exact ⟨Iff.rfl, fun _ => rfl⟩

end

/--
Two runs of injections that are the same to the switch, on switches of the same generation, send the same requests, and
end the same way if these are answered the same way. If they also name the same device and the same settings, each is a
run of the other but for what is printed. What a run of an injection sends is in any case no more than what its kind was
asked for.
-/
theorem injections_send_what_their_kind_uses
    : (∀ (i : Invocation) a t result,
        i.action = .inject a → i.run.run.Yields t result → a.Injects t result)
        ∧
      (∀ (i j : Invocation) a b t u result other,
        i.action = .inject a → j.action = .inject b → SameInjection a b →
        i.run.run.Yields t result → j.run.run.Yields u other →
        (t.filterMap Entry.opened?).map Handle.generation = (u.filterMap Entry.opened?).map Handle.generation →
          (t.filterMap Entry.exchanged?).map Prod.fst = (u.filterMap Entry.exchanged?).map Prod.fst
            ∧
          (t.filterMap Entry.exchanged? = u.filterMap Entry.exchanged? →
            (result = .ok () ↔ other = .ok ()) ∧ (t.filterMap Entry.opened? ≠ [] → result = other)))
        ∧
      (∀ (i j : Invocation) a b t result,
        i.action = .inject a → j.action = .inject b → SameInjection a b → a.conflicts = false → b.conflicts = false →
        i.device = j.device → i.config = j.config → i.run.run.Yields t result →
          ∃ u, j.run.run.Yields u result ∧ u.filter (!·.1.isPrint) = t.filter (!·.1.isPrint)) := by
  refine ⟨?_, ?_, ?_⟩
  . intro i a t result haction
    exact Invocation.injects_of_yields haction
  . intro i j a b t u result other
    exact Invocation.sent_eq_of_sameInjection
  . intro i j a b t result hi hj hsame ha hb hdevice hconfig
    exact Invocation.exists_run_of_sameInjection hi hj hsame ha hb hdevice hconfig

open Simulation in
/--
Two injections of spoiled checksums that differ in the options of other kinds and in what enables them. Both send the
same eight bytes.
-/
theorem checksum_injection_ignores_other_options
    : let switch : Switch := { commands := .replies [.data [0, 0, 0, 0]] }
      let console : Console := { switch, opening := fun name => .ok (switch.handle name 0 .gen4) }
      let a : InjectionArguments := ⟨.dllpCrc, 3, 1, none, 0, 0, 260, 0⟩
      let b : InjectionArguments := ⟨.dllpCrc, 3, 9, some 0xDEAD, 0xFFFF, 7, 260, 0⟩
      let i : Invocation := ⟨some "switchtec0", none, .warning, false, false, .inject a⟩
      let j : Invocation := ⟨some "switchtec0", none, .debug, true, true, .inject b⟩
      SameInjection a b
        ∧
      (i.run.sent Console.answer console).map Prod.fst = [⟨Command.errorInjection.id, [1, 3, 1, 0, 4, 1, 0, 0], 4⟩]
        ∧
      (j.run.sent Console.answer console).map Prod.fst = (i.run.sent Console.answer console).map Prod.fst := by
  intro switch console a b i j
  have hsame : SameInjection a b := ⟨rfl, rfl, by decide, rfl⟩
  have hgeneration : ((j.run.run.transcript Console.answer console).filterMap Entry.opened?).map Handle.generation
      = ((i.run.run.transcript Console.answer console).filterMap Entry.opened?).map Handle.generation := by
    decide +kernel
  have hi := Program.yields_transcript Console.answer i.run.run console
  have hj := Program.yields_transcript Console.answer j.run.run console
  refine ⟨hsame, by decide +kernel, ?_⟩
  have hsame' : SameInjection b a := ⟨rfl, rfl, by decide, rfl⟩
  exact (injections_send_what_their_kind_uses.2.1 j i b a _ _ _ _ rfl rfl hsame' hj hi hgeneration).1

end PcieSwitch
