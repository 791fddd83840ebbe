import PcieSwitch.Proofs.Features

/-!
This module contains what operations do with arguments that they refuse, which is nothing, and what they say of
them.
-/

namespace PcieSwitch

def Error.isArgument : Error → Bool
  | .counterOutOfRange .. | .portOutOfRange _ | .stackOutOfRange _ | .partitionOutOfRange _
  | .invalidEventIndex .. | .valueOutOfRange .. | .invalidWidth _ | .outsideWindow .. | .unsupported _ => true
  | _ => false

def NamesArguments (refusal : Option Error) : Prop :=
  ∀ e, refusal = some e → e.isArgument = true

namespace NamesArguments

theorem none : NamesArguments none := by
  intro e he
  cases he

theorem some {e : Error} (he : e.isArgument = true) : NamesArguments (some e) := by
  intro e' he'
  cases he'
  exact he

theorem ite {c : Prop} [Decidable c] {refusal other : Option Error} (h : NamesArguments refusal)
    (hother : NamesArguments other) : NamesArguments (if c then refusal else other) := by
  split
  . exact h
  . exact hother

theorem or {refusal other : Option Error} (h : NamesArguments refusal) (hother : NamesArguments other)
    : NamesArguments (refusal.or other) := by
  intro e he
  rcases Option.or_eq_some_iff.mp he with he | ⟨_, he⟩
  . exact h e he
  . exact hother e he

theorem refusePort (port : UInt8) : NamesArguments (refusePort port) := by
  apply ite (some rfl) none

theorem refusePartition (partition : UInt8) : NamesArguments (refusePartition partition) := by
  apply ite (some rfl) none

theorem refusePorts (ports : List UInt8) : NamesArguments (refusePorts ports) := by
  intro e he
  obtain ⟨port, _, rfl⟩ := exists_port_of_refusePorts he
  rfl

theorem refuseCounters (stack : UInt8) (counter count : Nat)
    : NamesArguments (refuseCounters stack counter count) := by
  apply or
  . apply ite (some rfl) none
  . apply ite (some rfl) none

theorem refuseValue (what : String) (value max : Nat) : NamesArguments (refuseValue what value max) := by
  apply ite (some rfl) none

theorem refuseSpan (address length : Nat) : NamesArguments (refuseSpan address length) := by
  apply ite (some rfl) none

theorem refuseRegister (address bytes : Nat) : NamesArguments (refuseRegister address bytes) := by
  apply ite (refuseSpan _ _) (some rfl)

end NamesArguments

namespace Feature

theorem isArgument_of_refusal {generation : Generation} (f : Feature α)
    : NamesArguments (f.refusal? generation) := by
  cases f with
  | echo | hardReset | dieTemperature | status | bandwidthOfAll | selectBandwidthOfAll => exact .none
  | bindInfo | injectDllp | injectTlpSequence | latency => exact .refusePort _
  | bind => exact .or (.refusePartition _) (.refusePort _)
  | unbind => exact .refusePartition _
  | injectDllpCrc | injectTlpLcrc | injectNack => exact .or (.refuseValue _ _ _) (.refusePort _)
  | injectCreditTimeout => exact .ite (.refusePort _) (.some rfl)
  | setupCounter | clearCounter | counterSetups | counterValues | counters => exact .refuseCounters _ _ _
  | bandwidth | selectBandwidth | latencies | setupLatencies | setupLatency => exact .refusePorts _
  | readRegister => exact .refuseRegister _ _
  | writeRegister => exact .or (.refuseRegister _ _) (.refuseValue _ _ _)
  | readSpan => exact .refuseSpan _ _

theorem isArgument_of_raisesLater (f : Feature α) {e : Error} (hraises : f.RaisesLater e)
    : e.isArgument = true := by
  cases f with
  | bandwidthOfAll | selectBandwidthOfAll =>
    obtain ⟨port, _, rfl⟩ := hraises
    rfl
  | _ => cases hraises

end Feature

namespace Handle

open Operation

variable {h : Handle}

theorem window_size : h.window.size = windowSize := by
  rfl

theorem inject_of_refused {port : UInt8} {r : Request} {e : Error} (hport : refusePort port = some e)
    : h.inject port r = throw e := by
  exact ofExcept_refused_bind (checkPhysicalPort_eq port) hport

theorem inject_value_of_refused {what : String} {value max : Nat} {port : UInt8} {r : Request} {e : Error}
    (hrefused : (refuseValue what value max).or (refusePort port) = some e)
    : (ofExcept (Injection.checkValue what value max) >>= fun _ => h.inject port r) = throw e := by
  -- the value is checked before the port
  rcases Option.or_eq_some_iff.mp hrefused with hvalue | ⟨hvalue, hport⟩
  . rw [ofExcept_refused_bind (checkValue_eq what value max) hvalue]
  . rw [ofExcept_accepted_bind (checkValue_eq what value max) hvalue, inject_of_refused hport]

theorem queryCounters_of_refused {stack : UInt8} {counter count width : Nat} {r : Request} {e : Error}
    (hrefused : refuseCounters stack counter count = some e)
    : h.queryCounters stack counter count width r = throw e := by
  unfold queryCounters
  rw [ofExcept_refused_bind (checkCounters_eq stack counter count) hrefused]

theorem counterSetups_of_refused {stack : UInt8} {counter count : Nat} {e : Error}
    (hrefused : refuseCounters stack counter count = some e)
    : h.counterSetups stack counter count = throw e := by
  unfold counterSetups
  rw [queryCounters_of_refused hrefused]
  rfl

theorem latencies_of_refused {ports : List UInt8} {clear : Bool} {e : Error}
    (hrefused : refusePorts ports = some e)
    : h.latencies ports clear = throw e := by
  unfold latencies
  rw [ofExcept_refused_bind (checkPorts_eq ports) hrefused]

theorem setupLatencies_of_refused {pairs : List (UInt8 × UInt8)} {e : Error}
    (hrefused : refusePorts (pairs.flatMap portsOfPair) = some e)
    : h.setupLatencies pairs = throw e := by
  unfold setupLatencies
  rw [ofExcept_refused_bind (checkPairs_eq pairs) hrefused]

theorem bandwidth_of_refused {ports : List UInt8} {clear : Bool} {e : Error}
    (hrefused : refusePorts ports = some e)
    : h.bandwidth ports clear = throw e := by
  unfold bandwidth
  rw [ofExcept_refused_bind (checkPorts_eq ports) hrefused]

theorem selectBandwidth_of_refused {ports : List UInt8} {kind : BandwidthKind} {e : Error}
    (hrefused : refusePorts ports = some e)
    : h.selectBandwidth ports kind = throw e := by
  unfold selectBandwidth
  rw [ofExcept_refused_bind (checkPorts_eq ports) hrefused]

theorem bind_of_refused {partition logical physical : UInt8} {e : Error}
    (hrefused : (refusePartition partition).or (refusePort physical) = some e)
    : h.bind partition logical physical = throw e := by
  unfold bind
  rcases Option.or_eq_some_iff.mp hrefused with hpartition | ⟨hpartition, hphysical⟩
  . rw [ofExcept_refused_bind (checkPartition_eq partition) hpartition]
  . rw [ofExcept_accepted_bind (checkPartition_eq partition) hpartition]
    rw [ofExcept_refused_bind (checkPhysicalPort_eq physical) hphysical]

theorem injectCreditTimeout_of_refused {port : UInt8} {e : Error}
    (hrefused : (Feature.injectCreditTimeout port).refusal? h.generation = some e)
    : h.injectCreditTimeout port = throw e := by
  unfold Feature.refusal? at hrefused
  dsimp only at hrefused
  unfold injectCreditTimeout
  split at hrefused
  . next hgeneration =>
    rw [if_neg (not_not_intro hgeneration)]
    apply inject_of_refused hrefused
  . next hgeneration =>
    cases hrefused
    rw [if_pos hgeneration]
    rfl

theorem counterValues_of_refused {stack : UInt8} {counter count : Nat} {clear : Bool} {e : Error}
    (hrefused : refuseCounters stack counter count = some e)
    : h.counterValues stack counter count clear = throw e := by
  unfold counterValues
  rw [queryCounters_of_refused hrefused]
  rfl

theorem counters_of_refused {stack : UInt8} {counter count : Nat} {clear : Bool} {e : Error}
    (hrefused : refuseCounters stack counter count = some e)
    : h.counters stack counter count clear = throw e := by
  unfold counters
  rw [counterSetups_of_refused hrefused]
  rfl

theorem setupLatency_of_refused {egress ingress : UInt8} {clear : Bool} {e : Error}
    (hrefused : refusePorts (portsOfPair (egress, ingress)) = some e)
    : h.setupLatency egress ingress clear = throw e := by
  rw [← List.flatMap_singleton portsOfPair] at hrefused
  unfold setupLatency
  rw [setupLatencies_of_refused hrefused]
  rfl

theorem latency_of_refused {egress : UInt8} {clear : Bool} {e : Error}
    (hrefused : refusePort egress = some e)
    : h.latency egress clear = throw e := by
  rw [← refusePorts_singleton] at hrefused
  unfold latency
  rw [latencies_of_refused hrefused]
  rfl

section

variable {address bytes length : Nat} {value : UInt64} {e : Error}

theorem readRegister_of_refused (hrefused : refuseRegister address bytes = some e)
    : h.window.readRegister address bytes = throw e := by
  unfold Window.readRegister
  rw [window_size, ofExcept_error_bind (Window.locate_of_refused hrefused)]

theorem writeRegister_of_refused
    (hrefused : (refuseRegister address bytes).or
      (refuseValue "register value" value.toNat (256 ^ bytes - 1)) = some e)
    : h.window.writeRegister address bytes value = throw e := by
  unfold Window.writeRegister
  rw [window_size, ofExcept_error_bind (Window.validate_of_refused hrefused)]

theorem readSpan_of_refused (hrefused : refuseSpan address length = some e)
    : h.window.readSpan address length = throw e := by
  unfold Window.readSpan
  rw [window_size, ofExcept_refused_bind (checkSpan_eq address length) hrefused]

end

theorem perform_of_refused (h : Handle) {f : Feature α} {e : Error}
    (hrefused : f.refusal? h.generation = some e)
    : h.perform f = throw e := by
  cases f with
  | echo | hardReset | dieTemperature | status | bandwidthOfAll | selectBandwidthOfAll => cases hrefused
  | bindInfo physical => exact ofExcept_refused_bind (checkPhysicalPort_eq physical) hrefused
  | bind => exact bind_of_refused hrefused
  | unbind partition => exact ofExcept_refused_bind (checkPartition_eq partition) hrefused
  | injectDllp | injectTlpSequence => exact inject_of_refused hrefused
  | injectDllpCrc | injectTlpLcrc | injectNack => exact inject_value_of_refused hrefused
  | injectCreditTimeout => exact injectCreditTimeout_of_refused hrefused
  | setupCounter stack counter | clearCounter stack counter =>
    exact ofExcept_refused_bind (checkCounters_eq stack counter 0) hrefused
  | counterSetups => exact counterSetups_of_refused hrefused
  | counterValues => exact counterValues_of_refused hrefused
  | counters => exact counters_of_refused hrefused
  | bandwidth => exact bandwidth_of_refused hrefused
  | selectBandwidth => exact selectBandwidth_of_refused hrefused
  | setupLatencies => exact setupLatencies_of_refused hrefused
  | setupLatency => exact setupLatency_of_refused hrefused
  | latencies => exact latencies_of_refused hrefused
  | latency => exact latency_of_refused hrefused
  | readRegister => exact readRegister_of_refused hrefused
  | writeRegister => exact writeRegister_of_refused hrefused
  | readSpan => exact readSpan_of_refused hrefused

end Handle
end PcieSwitch
