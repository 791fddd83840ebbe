import Mathlib.Algebra.Group.Nat.Defs
import PcieSwitch.Event.Summary
import PcieSwitch.Port.Injection
import PcieSwitch.Proofs.Checks
import PcieSwitch.Proofs.Exchanges

/-!
This module contains the refusals of arguments: for each kind of argument the error that it is refused with,
if it is. A check fails with the refusal and passes if there is none.
-/

namespace PcieSwitch

def passUnless : Option Error → Except Error Unit
  | some e => .error e
  | none => .ok ()

theorem passUnless_eq_ok_iff {refusal : Option Error} : passUnless refusal = .ok () ↔ refusal = none := by
  cases refusal with
  | none => exact ⟨fun _ => rfl, fun _ => rfl⟩
  | some e => exact ⟨nofun, nofun⟩

theorem passUnless_or (refusal other : Option Error)
    : passUnless (refusal.or other) = (passUnless refusal >>= fun _ => passUnless other) := by
  cases refusal <;> rfl

namespace Operation

theorem ofExcept_accepted_bind {f : Unit → Operation α} {check : Except Error Unit} {refusal : Option Error}
    (hcheck : check = passUnless refusal) (haccepted : refusal = none)
    : (ofExcept check >>= f : Operation α) = f () := by
  apply ofExcept_ok_bind
  rw [hcheck, haccepted, passUnless]

theorem ofExcept_refused_bind {f : Unit → Operation α} {check : Except Error Unit} {refusal : Option Error}
    {e : Error} (hcheck : check = passUnless refusal) (hrefused : refusal = some e)
    : (ofExcept check >>= f : Operation α) = throw e := by
  apply ofExcept_error_bind
  rw [hcheck, hrefused, passUnless]

end Operation

def refusePort (port : UInt8) : Option Error :=
  if maxPorts ≤ port.toNat then some (.portOutOfRange port.toNat) else none

def refusePartition (partition : UInt8) : Option Error :=
  if maxPartitions ≤ partition.toNat then some (.partitionOutOfRange partition.toNat) else none

def refusePorts (ports : List UInt8) : Option Error :=
  ports.findSome? refusePort

def portsOfPair (pair : UInt8 × UInt8) : List UInt8 :=
  if pair.2 = anyIngress then [pair.1] else [pair.1, pair.2]

def refuseStack (stack : UInt8) : Option Error :=
  if maxStacks ≤ stack.toNat then some (.stackOutOfRange stack.toNat) else none

def refuseRange (counter count : Nat) : Option Error :=
  if maxEventCounters ≤ counter ∨ maxEventCounters < counter + count then
    some (.counterOutOfRange counter (min (counter + count) maxWord) maxEventCounters)
  else none

def refuseCounters (stack : UInt8) (counter count : Nat) : Option Error :=
  (refuseStack stack).or (refuseRange counter count)

theorem refuseCounters_of_stack {stack : UInt8} (hstack : maxStacks ≤ stack.toNat) (counter count : Nat)
    : refuseCounters stack counter count = some (.stackOutOfRange stack.toNat) := by
  unfold refuseCounters refuseStack
  rw [if_pos hstack]
  rfl

theorem refuseCounters_of_range {stack : UInt8} {counter count : Nat} (hstack : stack.toNat < maxStacks)
    (hcounter : counter < maxEventCounters) (hcount : counter + count ≤ maxEventCounters)
    : refuseCounters stack counter count = none := by
  unfold refuseCounters refuseStack refuseRange
  rw [if_neg (Nat.not_le.mpr hstack), if_neg (by omega)]
  rfl

def refuseValue (what : String) (value max : Nat) : Option Error :=
  if max < value then some (.valueOutOfRange what value max) else none

def refuseSpan (address length : Nat) : Option Error :=
  if windowSize < address + length then some (.outsideWindow address length) else none

def refuseRegister (address bytes : Nat) : Option Error :=
  if bytes = 1 ∨ bytes = 2 ∨ bytes = 4 ∨ bytes = 8 then refuseSpan (address - address % bytes) bytes
  else some (.invalidWidth bytes)

def refuseIndex (event : Event) : EventIndex → Option Error
  | .all => none
  | .localPartition =>
    if event.kind = .function then some (.invalidEventIndex event.driverName (-1)) else none
  | .only i =>
    match event.kind with
    | .global => none
    | .partition => if maxPartitions ≤ i then some (.partitionOutOfRange i) else none
    | .function => if maxFunctions ≤ i then some (.portOutOfRange i) else none

theorem ite_eq_passUnless {accepted refused : Prop} [Decidable accepted] [Decidable refused]
    (h : accepted ↔ ¬ refused) (e : Error)
    : (if accepted then .ok () else .error e) = passUnless (if refused then some e else none) := by
  by_cases hrefused : refused
  . rw [if_neg (by simp [h, hrefused]), if_pos hrefused, passUnless]
  . rw [if_pos (h.mpr hrefused), if_neg hrefused, passUnless]

theorem checkPort_eq (port : UInt8) : checkPort port = passUnless (refusePort port) := by
  apply ite_eq_passUnless
  omega

theorem checkPhysicalPort_eq (port : UInt8) : checkPhysicalPort port = passUnless (refusePort port) := by
  apply checkPort_eq

theorem checkPartition_eq (partition : UInt8)
    : checkPartition partition = passUnless (refusePartition partition) := by
  apply ite_eq_passUnless
  omega

theorem checkStack_eq (stack : UInt8) : checkStack stack = passUnless (refuseStack stack) := by
  apply ite_eq_passUnless
  omega

theorem checkValue_eq (what : String) (value max : Nat)
    : Injection.checkValue what value max = passUnless (refuseValue what value max) := by
  apply ite_eq_passUnless
  omega

theorem checkSpan_eq (address length : Nat)
    : Window.checkSpan windowSize address length = passUnless (refuseSpan address length) := by
  apply ite_eq_passUnless
  omega

theorem checkPorts_eq (ports : List UInt8) : checkPorts ports = passUnless (refusePorts ports) := by
  induction ports with
  | nil => rfl
  | cons port rest ih =>
    unfold checkPorts refusePorts
    rw [checkPort_eq, ih, List.findSome?_cons]
    cases refusePort port <;> rfl

theorem exists_port_of_refusePorts {ports : List UInt8} {e : Error} (h : refusePorts ports = some e)
    : ∃ port, maxPorts ≤ port ∧ e = .portOutOfRange port := by
  obtain ⟨port, _, hport⟩ := List.exists_of_findSome?_eq_some h
  unfold refusePort at hport
  split at hport
  . cases hport
    exact ⟨port.toNat, by assumption, rfl⟩
  . cases hport

theorem refusePorts_singleton (port : UInt8) : refusePorts [port] = refusePort port := by
  unfold refusePorts
  rw [List.findSome?_cons]
  cases refusePort port <;> rfl

theorem refusePort_of_portsOfPair {egress ingress : UInt8}
    (hpair : refusePorts (portsOfPair (egress, ingress)) = none) : refusePort egress = none := by
  apply List.findSome?_eq_none_iff.mp hpair
  unfold portsOfPair
  split <;> simp

theorem checkPairs_eq (pairs : List (UInt8 × UInt8))
    : Latency.checkPairs pairs = passUnless (refusePorts (pairs.flatMap portsOfPair)) := by
  induction pairs with
  | nil => rfl
  | cons pair rest ih =>
    obtain ⟨egress, ingress⟩ := pair
    have hports : passUnless (refusePorts ((portsOfPair (egress, ingress)) ++ rest.flatMap portsOfPair))
        = (checkPorts (portsOfPair (egress, ingress)) >>= fun _ => Latency.checkPairs rest) := by
      rw [checkPorts_eq, ih, ← passUnless_or, refusePorts, List.findSome?_append]
      rfl
    rw [List.flatMap_cons, hports, Latency.checkPairs, portsOfPair]
    by_cases hany : ingress = anyIngress
    . rw [if_neg (not_not_intro hany), if_pos hany, checkPorts]
      cases checkPort egress <;> rfl
    . rw [if_pos hany, if_neg hany, checkPorts, checkPorts]
      cases checkPort egress with
      | error e => rfl
      | ok _ => cases checkPort ingress <;> rfl

theorem count_le_of_accepted {stack : UInt8} {counter count : Nat}
    (hcounters : refuseCounters stack counter count = none) : count ≤ maxEventCounters := by
  have hrange := (Option.or_eq_none_iff.mp hcounters).2
  unfold refuseRange at hrange
  split at hrange
  . cases hrange
  . omega

theorem checkCounters_eq (stack : UInt8) (counter count : Nat)
    : checkCounters stack counter count = passUnless (refuseCounters stack counter count) := by
  have hmax : maxEventCounters < maxWord := by decide
  unfold checkCounters refuseCounters
  rw [checkStack_eq, passUnless_or]
  congr 1
  funext _
  apply ite_eq_passUnless
  omega

theorem checkIndex_eq (event : Event) (index : EventIndex)
    : EventIndex.check event index = passUnless (refuseIndex event index) := by
  unfold EventIndex.check refuseIndex
  cases index with
  | all => cases event.kind <;> rfl
  | localPartition => cases event.kind <;> rfl
  | only i =>
    cases event.kind with
    | global => rfl
    | partition | function =>
      apply ite_eq_passUnless
      omega

theorem checkIndex_eq_ok_iff {event : Event} {index : EventIndex}
    : EventIndex.check event index = .ok () ↔ refuseIndex event index = none := by
  rw [checkIndex_eq, passUnless_eq_ok_iff]

theorem Width.exists_of_bytes {bytes : Nat} (h : bytes = 1 ∨ bytes = 2 ∨ bytes = 4 ∨ bytes = 8)
    : ∃ width : Width, width.bytes = bytes := by
  rcases h with rfl | rfl | rfl | rfl
  . exact ⟨.w8, rfl⟩
  . exact ⟨.w16, rfl⟩
  . exact ⟨.w32, rfl⟩
  . exact ⟨.w64, rfl⟩

theorem Width.ofBytes_bytes (width : Width) : ofBytes width.bytes = .ok width := by
  cases width <;> rfl

theorem Width.bytes_cases (width : Width)
    : width.bytes = 1 ∨ width.bytes = 2 ∨ width.bytes = 4 ∨ width.bytes = 8 := by
  cases width <;> decide

theorem Width.maxValue_eq (width : Width) : width.maxValue = 256 ^ width.bytes - 1 := by
  cases width <;> rfl

namespace Window

theorem locate_width (width : Width) (address : Nat)
    : locate windowSize address width.bytes
        =
      (passUnless (refuseRegister address width.bytes) >>= fun _ =>
        .ok (width, address - address % width.bytes)) := by
  unfold locate refuseRegister Width.align
  rw [Width.ofBytes_bytes, if_pos width.bytes_cases, ← checkSpan_eq]
  rfl

theorem locate_of_accepted {address bytes : Nat} (haccepted : refuseRegister address bytes = none)
    : ∃ width : Width,
        width.bytes = bytes ∧ locate windowSize address bytes = .ok (width, address - address % bytes) := by
  have hbytes : bytes = 1 ∨ bytes = 2 ∨ bytes = 4 ∨ bytes = 8 := by
    unfold refuseRegister at haccepted
    split at haccepted
    . assumption
    . cases haccepted
  obtain ⟨width, rfl⟩ := Width.exists_of_bytes hbytes
  refine ⟨width, rfl, ?_⟩
  rw [locate_width, haccepted]
  rfl

theorem locate_of_refused {address bytes : Nat} {e : Error}
    (hrefused : refuseRegister address bytes = some e)
    : locate windowSize address bytes = .error e := by
  by_cases hbytes : bytes = 1 ∨ bytes = 2 ∨ bytes = 4 ∨ bytes = 8
  . obtain ⟨width, rfl⟩ := Width.exists_of_bytes hbytes
    rw [locate_width, hrefused]
    rfl
  . unfold refuseRegister at hrefused
    rw [if_neg hbytes] at hrefused
    have hwidth : Width.ofBytes bytes = .error (.invalidWidth bytes) := by
      unfold Width.ofBytes
      split <;> simp_all
    unfold locate
    rw [hwidth]
    cases hrefused
    rfl

theorem validate_located {address bytes : Nat} {value : UInt64} {width : Width} {aligned : Nat}
    (hwidth : width.bytes = bytes) (hlocate : locate windowSize address bytes = .ok (width, aligned))
    : validate windowSize address bytes value
        =
      (passUnless (refuseValue "register value" value.toNat (256 ^ bytes - 1)) >>= fun _ =>
        .ok (width, aligned)) := by
  unfold validate
  rw [hlocate, ← hwidth, ← width.maxValue_eq, ← checkValue_eq]
  unfold Injection.checkValue
  dsimp only [bind, Except.bind]
  split <;> rfl

theorem validate_of_accepted {address bytes : Nat} {value : UInt64}
    (haccepted : refuseRegister address bytes = none)
    (hvalue : refuseValue "register value" value.toNat (256 ^ bytes - 1) = none)
    : ∃ width : Width,
        width.bytes = bytes
          ∧
        validate windowSize address bytes value = .ok (width, address - address % bytes) := by
  obtain ⟨width, hwidth, hlocate⟩ := locate_of_accepted haccepted
  refine ⟨width, hwidth, ?_⟩
  rw [validate_located hwidth hlocate, hvalue]
  rfl

theorem validate_of_refused {address bytes : Nat} {value : UInt64} {e : Error}
    (hrefused : (refuseRegister address bytes).or
      (refuseValue "register value" value.toNat (256 ^ bytes - 1)) = some e)
    : validate windowSize address bytes value = .error e := by
  rcases Option.or_eq_some_iff.mp hrefused with hregister | ⟨hregister, hvalue⟩
  . unfold validate
    rw [locate_of_refused hregister]
    rfl
  . obtain ⟨width, hwidth, hlocate⟩ := locate_of_accepted hregister
    rw [validate_located hwidth hlocate, hvalue]
    rfl

end Window
end PcieSwitch
