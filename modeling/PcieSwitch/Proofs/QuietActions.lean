import PcieSwitch.Proofs.EventWork
import PcieSwitch.Proofs.RequestLanguage
import PcieSwitch.Proofs.SessionCalls

/-!
This module contains what is destructive, and that the actions of the program are quiet: they neither do anything of
this kind nor put a question. The exceptions are the reset and the write of a register.
-/

namespace PcieSwitch

/--
What cannot be taken back: a reset, and a change of the registers by the firmware or in memory.
-/
def SessionCall.isDestructive : SessionCall → Bool
  | .device (.exchange x) => x.command = Command.reset.id || x.command = Command.gasWrite.id
  | .memory (.store ..) => true
  | _ => false

def SessionCall.isQuestion : SessionCall → Bool
  | .question _ => true
  | _ => false

def SessionCall.Quiet (c : SessionCall) : Prop :=
  c.isDestructive = false ∧ c.isQuestion = false

def Quiet (t : List (Entry sessionInterface)) : Prop :=
  ∀ entry ∈ t, entry.1.Quiet

theorem Quiet.append {t u : List (Entry sessionInterface)} (ht : Quiet t) (hu : Quiet u) : Quiet (t ++ u) :=
  List.forall_mem_append.mpr ⟨ht, hu⟩

theorem SessionCall.Plain.quiet {c : SessionCall} (h : c.Plain) : c.Quiet := by
  unfold Plain at h
  split at h
  . cases h
  . cases h
  . cases h
  . cases c with
    | device | memory | question => simp_all
    | _ => exact ⟨rfl, rfl⟩

theorem Command.id_inj {c d : Command} (h : c.id = d.id) : c = d := by
  have hlisted : ∀ e : Command, all.find? (·.id == e.id) = some e := by
    intro e
    cases e <;> rfl
  have hc := hlisted c
  rw [h, hlisted d] at hc
  exact (Option.some.inj hc).symm

def Feature.isDestructive : Feature α → Bool
  | .hardReset | .writeRegister .. => true
  | _ => false

namespace Session

open Operation

theorem quiet_onDevice {operation : Operation α} {commands : List Command} {generation : Generation}
    (h : SendsOnly (Request.SpelledBy commands generation) operation) (hreset : .reset ∉ commands)
    (hwrite : .gasWrite ∉ commands) : Program.AsksOnly SessionCall.Quiet (onDevice operation.run) := by
  apply AsksOnly.onDevice
  intro t result hyields entry hentry
  obtain ⟨c, answer⟩ := entry
  cases c with
  | exchange x =>
    have hsent : (x, answer) ∈ t.filterMap Entry.sent? := List.mem_filterMap.mpr ⟨_, hentry, rfl⟩
    obtain ⟨r, _, hcommand, hx⟩ := h _ result ⟨t, hyields, rfl⟩ _ hsent
    have hid : x.command = r.command.id := congrArg Exchange.command hx
    have hne : ∀ c : Command, c ∉ commands → x.command ≠ c.id := by
      intro c hc heq
      rw [hid] at heq
      rw [← Command.id_inj heq] at hc
      exact hc hcommand
    refine ⟨?_, rfl⟩
    exact Bool.or_eq_false_iff.mpr ⟨decide_eq_false (hne .reset hreset), decide_eq_false (hne .gasWrite hwrite)⟩
  | _ => exact ⟨rfl, rfl⟩

theorem quiet_perform {operation : Operation α} {commands : List Command} {generation : Generation}
    (h : SendsOnly (Request.SpelledBy commands generation) operation) (hreset : .reset ∉ commands)
    (hwrite : .gasWrite ∉ commands) : AsksOnly SessionCall.Quiet (perform operation) := by
  apply AsksOnly.ofDevice
  exact quiet_onDevice h hreset hwrite

theorem quiet_feature (h : Handle) (f : Feature α) (hf : f.isDestructive = false)
    : AsksOnly SessionCall.Quiet (perform (h.perform f)) := by
  have hcommands : .reset ∉ f.commands ∧ .gasWrite ∉ f.commands := by
    cases f with
    | hardReset | writeRegister => cases hf
    | _ => simp [Feature.commands]
  exact quiet_perform (h.sendsOnly_commands f) hcommands.1 hcommands.2

theorem quiet_events {operation : Operation α} (h : AsksEvents (fun _ => True) operation)
    : AsksOnly SessionCall.Quiet (perform operation) := by
  have hnone : SendsOnly (Request.SpelledBy [] .gen4) operation := by
    rintro sent result ⟨t, hyields, rfl⟩
    rw [(h t result hyields).1]
    apply List.forall_mem_nil
  exact quiet_perform hnone List.not_mem_nil List.not_mem_nil

end Session

namespace Handle

open Operation

variable (h : Handle)

theorem anyError_askEvents (c : EventCall) : AsksEvents (fun _ => True) (h.askEvents c) :=
  asksEvents_askEvents c fun _ => trivial

theorem anyError_controlEvent (event : Event) (index : EventIndex) (flags : UInt32)
    : AsksEvents (fun _ => True) (h.controlEvent event index flags) := by
  cases hrefused : refuseIndex event index with
  | none => exact asksEvents_controlEvent hrefused fun _ => trivial
  | some e =>
    rw [controlEvent_of_refused hrefused]
    exact AsksEvents.throw trivial

theorem anyError_waitFor (event : Event) (index : EventIndex) (timeout : Option Nanoseconds)
    : AsksEvents (fun _ => True) (h.waitFor event index timeout) := by
  cases hrefused : refuseIndex event index with
  | none => exact asksEvents_waitFor hrefused timeout (fun _ => trivial) trivial
  | some e =>
    rw [waitFor_of_refused hrefused]
    exact AsksEvents.throw trivial

theorem anyError_record? (q : EventQuery) (event : Event) (index : Nat)
    : AsksEvents (fun _ => True) (h.record? q event index) := by
  have hplace : AsksEvents (fun _ => True) (h.placeOf event index) := by
    unfold placeOf
    split
    . apply AsksEvents.pure
    . apply AsksEvents.pure
    . exact (h.anyError_askEvents (.portOf index)).bind fun _ => AsksEvents.pure _
  unfold record?
  split
  . apply AsksEvents.pure
  . apply hplace.bind
    intro place
    dsimp only
    split
    . apply AsksEvents.pure
    . exact (h.anyError_controlEvent event (.only index) _).bind fun _ => AsksEvents.pure _

theorem anyError_events (s : Summary) (q : EventQuery) : AsksEvents (fun _ => True) (h.events s q) := by
  have hrecords : ∀ marks, AsksEvents (fun _ => True) (h.records q marks) := by
    intro marks
    induction marks with
    | nil => apply AsksEvents.pure
    | cons mark rest ih =>
      apply (h.anyError_record? q mark.1 mark.2).bind
      intro first
      exact ih.bind fun _ => AsksEvents.pure _
  exact (hrecords s.occurred).bind fun _ => AsksEvents.pure _

end Handle

namespace Context

open Session

variable (c : Context)

theorem quiet_openDevice : AsksOnly SessionCall.Quiet c.openDevice :=
  c.openDevice_asksOnly.mono fun _ => SessionCall.Plain.quiet

theorem quiet_output (json : Json) (lines : List String) : AsksOnly SessionCall.Quiet (c.output json lines) :=
  (c.output_asksOnly json lines).mono fun _ => SessionCall.Plain.quiet

theorem quiet_ask (call : SessionCall) (h : call.Plain) : AsksOnly SessionCall.Quiet (Session.ask call) :=
  AsksOnly.ask h.quiet

theorem quiet_status (reset : Bool) : AsksOnly SessionCall.Quiet (c.status reset) := by
  apply c.quiet_openDevice.bind
  intro h
  apply (AsksOnly.within _ (quiet_feature h .status rfl)).bind
  intro ports
  apply (AsksOnly.within _ (quiet_feature h (.bandwidth (ports.map (·.port.physical)) reset) rfl)).bind
  intro counters
  apply c.quiet_output

theorem quiet_measureBandwidth (time : Option Nat) (verbose : Bool)
    : AsksOnly SessionCall.Quiet (c.measureBandwidth time verbose) := by
  apply c.quiet_openDevice.bind
  intro h
  have hlisting := AsksOnly.within "bw" (quiet_feature h (.bandwidthOfAll false) rfl)
  apply hlisting.bind
  intro before
  apply (quiet_ask (.sleep _) trivial).bind
  intro _
  apply hlisting.bind
  intro after
  apply c.quiet_output

theorem quiet_selectBandwidth (kind : BandwidthKind) : AsksOnly SessionCall.Quiet (c.selectBandwidth kind) := by
  apply c.quiet_openDevice.bind
  intro h
  exact AsksOnly.within _ (quiet_feature h (.selectBandwidthOfAll kind) rfl)

theorem quiet_measureLatency (time : Option Nat) (egress ingress : UInt8)
    : AsksOnly SessionCall.Quiet (c.measureLatency time egress ingress) := by
  apply c.quiet_openDevice.bind
  intro h
  apply (AsksOnly.within _ (quiet_feature h (.setupLatency egress ingress true) rfl)).bind
  intro _
  apply (quiet_ask (.sleep _) trivial).bind
  intro _
  apply (AsksOnly.within _ (quiet_feature h (.latency egress false) rfl)).bind
  intro latency
  apply c.quiet_output

theorem quiet_bindInfo (physical : UInt8) : AsksOnly SessionCall.Quiet (c.bindInfo physical) := by
  apply c.quiet_openDevice.bind
  intro h
  apply (AsksOnly.within _ (quiet_feature h (.bindInfo physical) rfl)).bind
  intro infos
  apply c.quiet_output

theorem quiet_bind (partition logical physical : UInt8)
    : AsksOnly SessionCall.Quiet (c.bind partition logical physical) := by
  apply c.quiet_openDevice.bind
  intro h
  exact AsksOnly.within _ (quiet_feature h (.bind partition logical physical) rfl)

theorem quiet_unbind (partition logical : UInt8) : AsksOnly SessionCall.Quiet (c.unbind partition logical) := by
  apply c.quiet_openDevice.bind
  intro h
  exact AsksOnly.within _ (quiet_feature h (.unbind partition logical) rfl)

theorem quiet_counters (stack : Option UInt8) (reset : Bool) : AsksOnly SessionCall.Quiet (c.counters stack reset) := by
  have hread : ∀ (h : Handle) (numbers : List UInt8), AsksOnly SessionCall.Quiet (readStacks h reset numbers) := by
    intro h numbers
    induction numbers with
    | nil => apply AsksOnly.pure
    | cons stack rest ih =>
      have hcounters := quiet_feature h (.counters stack 0 maxEventCounters reset) rfl
      refine AsksOnly.bind (Program.AsksOnly.bind hcounters fun _ => Program.AsksOnly.pure _) ?_
      intro result
      split
      . exact ih.bind fun _ => AsksOnly.pure _
      . exact (quiet_ask (.log _ _) trivial).bind fun _ => ih
  apply c.quiet_openDevice.bind
  intro h
  split
  . exact (hread h allStacks).bind fun _ => c.quiet_output _ _
  . next stack =>
    apply (AsksOnly.within _ (quiet_feature h (.counters stack 0 maxEventCounters reset) rfl)).bind
    intro counters
    apply c.quiet_output

theorem quiet_setupCounter (a : SetupArguments) : AsksOnly SessionCall.Quiet (c.setupCounter a) := by
  have hfree : ∀ h : Handle, AsksOnly SessionCall.Quiet (freeCounter h a.stack) := by
    intro h
    apply (AsksOnly.within _ (quiet_feature h (.counterSetups a.stack 0 maxEventCounters) rfl)).bind
    intro setups
    split
    . apply AsksOnly.pure
    . apply AsksOnly.throw
  have hplace : ∀ (h : Handle) (counter : Nat), AsksOnly SessionCall.Quiet (do
      Session.print (Report.counterDetails a.stack counter (setupFor a))
      Session.within "evcntr-setup" (Session.perform (h.setupCounter a.stack counter (setupFor a)))) := by
    intro h counter
    apply (quiet_ask (.print _) trivial).bind
    intro _
    exact AsksOnly.within _ (quiet_feature h (.setupCounter a.stack counter (setupFor a)) rfl)
  unfold Context.setupCounter
  dsimp only
  split
  . apply AsksOnly.throw
  . apply c.quiet_openDevice.bind
    intro h
    split
    . exact hplace h _
    . exact (hfree h).bind (hplace h)

theorem quiet_showCounter (stack : UInt8) (counter : Nat)
    : AsksOnly SessionCall.Quiet (c.showCounter stack counter) := by
  apply c.quiet_openDevice.bind
  intro h
  apply (AsksOnly.within _ (quiet_feature h (.counterSetups stack counter 1) rfl)).bind
  intro setups
  dsimp only
  split
  . exact quiet_ask (.print _) trivial
  . exact quiet_ask (.print _) trivial

theorem quiet_deleteCounter (stack : UInt8) (counter : Nat)
    : AsksOnly SessionCall.Quiet (c.deleteCounter stack counter) := by
  apply c.quiet_openDevice.bind
  intro h
  exact AsksOnly.within _ (quiet_feature h (.clearCounter stack counter) rfl)

theorem quiet_waitCounters (timeout : Option Nat) : AsksOnly SessionCall.Quiet (c.waitCounters timeout) := by
  apply c.quiet_openDevice.bind
  intro h
  have hwait : Operation.AsksEvents (fun _ => True) (h.waitCounters (timeout.map Nanoseconds.ofMilliseconds)) :=
    (h.anyError_waitFor .counterThreshold .all _).bind fun _ => Operation.AsksEvents.pure _
  apply (AsksOnly.within _ (Session.quiet_events hwait)).bind
  intro occurred
  split
  . apply c.quiet_counters
  . apply AsksOnly.throw

theorem quiet_showEvents (h : Handle) (s : Summary) (q : EventQuery)
    : AsksOnly SessionCall.Quiet (c.showEvents h s q) := by
  apply (AsksOnly.within _ (quiet_events (h.anyError_events s q))).bind
  intro records
  apply c.quiet_output

theorem quiet_events (all reset : Bool) (clear : List Event)
    : AsksOnly SessionCall.Quiet (c.events all reset clear) := by
  apply c.quiet_openDevice.bind
  intro h
  apply (AsksOnly.within _ (Session.quiet_events (h.anyError_askEvents .summary))).bind
  intro s
  apply c.quiet_showEvents

theorem quiet_placeToWait (h : Handle) (event : Event) (partition port : Option UInt32)
    : AsksOnly SessionCall.Quiet (placeToWait h event partition port) := by
  unfold placeToWait
  split
  . apply AsksOnly.pure
  . apply AsksOnly.throw
  . apply AsksOnly.pure
  . apply AsksOnly.pure
  . apply AsksOnly.pure
  . next p q _ =>
    apply (AsksOnly.within _ (Session.quiet_events (h.anyError_askEvents (.functionOf p q)))).bind
    intro number
    apply AsksOnly.pure
  . apply AsksOnly.throw

theorem quiet_waitEvent (event : Event) (partition port : Option UInt32) (timeout : Option Nat)
    : AsksOnly SessionCall.Quiet (c.waitEvent event partition port timeout) := by
  apply c.quiet_openDevice.bind
  intro h
  apply (quiet_placeToWait h event partition port).bind
  intro index
  apply (AsksOnly.within _ (Session.quiet_events (h.anyError_waitFor event index _))).bind
  intro pending
  split
  . apply AsksOnly.throw
  . apply c.quiet_showEvents

theorem quiet_listDevices (verbose : Bool) : AsksOnly SessionCall.Quiet (c.listDevices verbose) := by
  have hlist : Program.AsksOnly SessionCall.Quiet (Program.call (I := sessionInterface) .listDevices) :=
    Program.AsksOnly.call ⟨rfl, rfl⟩
  apply (AsksOnly.within _ (AsksOnly.ofDevice hlist)).bind
  intro devices
  apply c.quiet_output

theorem quiet_test : AsksOnly SessionCall.Quiet c.test := by
  apply c.quiet_openDevice.bind
  intro h
  apply (quiet_ask .calendar trivial).bind
  intro word
  apply (AsksOnly.within _ (quiet_feature h (.echo word) rfl)).bind
  intro answer
  dsimp only
  split
  . apply AsksOnly.throw
  . exact quiet_ask (.report _) trivial

theorem quiet_temperature : AsksOnly SessionCall.Quiet c.temperature := by
  have hlocale : AsksOnly SessionCall.Quiet Locale.ask := by
    unfold Locale.ask
    apply AsksOnly.mapM
    intro name _
    exact quiet_ask (.variable name) trivial
  apply c.quiet_openDevice.bind
  intro h
  apply (AsksOnly.within _ (quiet_feature h .dieTemperature rfl)).bind
  intro degrees
  dsimp only
  split
  . exact quiet_ask (.print _) trivial
  . exact hlocale.bind fun _ => quiet_ask (.print _) trivial

theorem quiet_inject (a : InjectionArguments) : AsksOnly SessionCall.Quiet (c.inject a) := by
  have hoperation : ∀ h : Handle, AsksOnly SessionCall.Quiet (Session.perform (a.operation h)) := by
    intro h
    unfold InjectionArguments.operation
    split
    . exact quiet_feature h (.injectDllp a.port (a.data.getD 0)) rfl
    . exact quiet_feature h (.injectDllpCrc a.port (a.enable != 0) a.dllpCrcRate) rfl
    . exact quiet_feature h (.injectTlpLcrc a.port (a.enable != 0) a.tlpLcrcRate) rfl
    . exact quiet_feature h (.injectTlpSequence a.port) rfl
    . exact quiet_feature h (.injectNack a.port a.sequence a.count) rfl
    . exact quiet_feature h (.injectCreditTimeout a.port) rfl
  have hwork : AsksOnly SessionCall.Quiet (do
      let h ← c.openDevice
      if a.kind = .creditTimeout ∧ h.generation ≠ .gen5 then
        throw .creditTimeoutUnsupported
      let status ← Session.within "linkerr-inject" (Session.perform (a.operation h))
      Session.log .debug "injection complete" [("port", toString a.port), ("status", toString status)]) := by
    apply c.quiet_openDevice.bind
    intro h
    dsimp only
    split
    . apply AsksOnly.throw
    . apply (AsksOnly.within _ (hoperation h)).bind
      intro status
      exact quiet_ask (.log _ _) trivial
  unfold inject
  refine AsksOnly.bind (AsksOnly.printLines fun _ => ⟨rfl, rfl⟩) ?_
  intro _
  dsimp only
  split
  . apply AsksOnly.throw
  . exact hwork

end Context
end PcieSwitch
