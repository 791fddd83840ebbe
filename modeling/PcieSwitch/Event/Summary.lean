import PcieSwitch.Event.Index
import PcieSwitch.Event.Scan

/-!
This module contains summaries: which events are pending, one bit per event in the word for its place.
-/

namespace PcieSwitch

structure Summary where
  global : UInt64
  partitionBitmap : UInt64
  localPartition : UInt32
  partitions : List UInt32
  functions : List UInt32
  deriving DecidableEq, Repr

namespace Summary

def empty : Summary where
  global := 0
  partitionBitmap := 0
  localPartition := 0
  partitions := List.replicate maxPartitions 0
  functions := List.replicate maxFunctions 0

instance : Inhabited Summary := ⟨empty⟩

def set (s : Summary) (event : Event) (index : EventIndex) : Except Error Summary := do
  EventIndex.check event index
  let bit : UInt32 := 1 <<< UInt32.ofNat event.bit
  match event.kind, index with
  | .global, _ => return { s with global := s.global ||| bit.toUInt64 }
  | .partition, .localPartition => return { s with localPartition := s.localPartition ||| bit }
  | .partition, .all => return { s with partitions := s.partitions.map (· ||| bit) }
  | .partition, .only i => return { s with partitions := s.partitions.modify i (· ||| bit) }
  | .function, .all => return { s with functions := s.functions.map (· ||| bit) }
  | .function, .only i => return { s with functions := s.functions.modify i (· ||| bit) }
  | .function, .localPartition => return s

def test (s : Summary) (event : Event) (index : Nat) : Bool :=
  let bit : UInt32 := 1 <<< UInt32.ofNat event.bit
  match event.kind with
  | .global => s.global &&& bit.toUInt64 != 0
  | .partition => s.partitions[index]?.any fun word => word &&& bit != 0
  | .function => s.functions[index]?.any fun word => word &&& bit != 0

def meet (ws vs : List UInt32) : Bool :=
  (ws.zip vs).any fun (w, v) => w &&& v != 0

def intersects (s t : Summary) : Bool :=
  s.global &&& t.global != 0
    || s.partitionBitmap &&& t.partitionBitmap != 0
    || s.localPartition &&& t.localPartition != 0
    || meet s.partitions t.partitions
    || meet s.functions t.functions

def eventsOf (kind : EventKind) (word : UInt64) : List Event :=
  (Scan.bits word).filterMap (Event.ofBit? kind)

def occurredIn (kind : EventKind) (words : List UInt64) : List (Event × Nat) :=
  words.zipIdx.flatMap fun (word, i) => (eventsOf kind word).map (·, i)

def occurred (s : Summary) : List (Event × Nat) :=
  occurredIn .global [s.global]
    ++ occurredIn .partition (s.partitions.map UInt32.toUInt64)
    ++ occurredIn .function (s.functions.map UInt32.toUInt64)

end Summary
end PcieSwitch
