import PcieSwitch.Event.Waiting

/-!
This module contains the listing of pending events with their counts.
-/

namespace PcieSwitch

structure EventRecord where
  partition : Option UInt32
  port : Option UInt32
  event : Event
  count : UInt32
  deriving DecidableEq, Repr

structure EventQuery where
  allPartitions : Bool := false
  clearAll : Bool := false
  clear : UInt32 := 0
  index : Option Nat := none
  deriving DecidableEq, Repr

namespace EventRecord

def leOption : Option UInt32 → Option UInt32 → Bool
  | none, _ => true
  | some _, none => false
  | some a, some b => a ≤ b

def le (r s : EventRecord) : Bool :=
  if r.partition != s.partition then leOption r.partition s.partition
  else if r.port != s.port then leOption r.port s.port
  else if r.event != s.event then r.event.number ≤ s.event.number
  else r.count ≤ s.count

end EventRecord

namespace EventQuery

def flags (q : EventQuery) (event : Event) : UInt32 :=
  if q.clearAll || q.clear &&& event.mask != 0 then EventFlags.clear else 0

end EventQuery

namespace Handle

def placeOf (h : Handle) (event : Event) (index : Nat) : Operation (Option UInt32 × Option UInt32) := do
  match event.kind with
  | .global => return (none, none)
  | .partition => return (some (UInt32.ofNat index), none)
  | .function =>
    let (partition, port) ← h.portOf index
    return (some partition, some port)

def record? (h : Handle) (q : EventQuery) (event : Event) (index : Nat) : Operation (Option EventRecord) := do
  if q.index.any (· ≠ index) then
    return none
  let (partition, port) ← h.placeOf event index
  if !q.allPartitions && partition ≠ some h.partition.toUInt32 then
    return none
  let count ← h.controlEvent event (.only index) (q.flags event)
  return some ⟨partition, port, event, count⟩

def records (h : Handle) (q : EventQuery) : List (Event × Nat) → Operation (List EventRecord)
  | [] => return []
  | (event, index) :: rest => do
    let first ← h.record? q event index
    let others ← h.records q rest
    return first.toList ++ others

def events (h : Handle) (s : Summary) (q : EventQuery) : Operation (List EventRecord) := do
  return (← h.records q s.occurred).mergeSort EventRecord.le

end Handle
end PcieSwitch
