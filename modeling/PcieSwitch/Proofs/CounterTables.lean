import PcieSwitch.Proofs.CounterPlacement
import PcieSwitch.Proofs.CounterRows
import PcieSwitch.Proofs.ListedStacks
import PcieSwitch.Proofs.OpenedSwitches
import PcieSwitch.Proofs.RegisterMemory
import PcieSwitch.Proofs.ReplyEntries

/-!
This module contains the tables of counters that a switch's replies make. The setups and the counts of a stack come in two
replies with entries of different sizes. A counter is shown if its setup counts anything, by its place in the replies.
-/

namespace PcieSwitch

structure StackReplies where
  stack : UInt8
  setups : Bytes
  counts : Bytes

namespace StackReplies

open Text

def portMask (r : StackReplies) (i : Nat) : Nat :=
  (r.setups.slice (9 * i) 1).toNat

def typeMask (r : StackReplies) (i : Nat) : Nat :=
  (r.setups.slice (9 * i + 1) 3).toNat

def count (r : StackReplies) (i : Nat) : Nat :=
  (r.counts.slice (8 * i) 4).toNat

def enabled (r : StackReplies) : List Nat :=
  (List.range 64).filter fun i => r.portMask i ≠ 0 ∧ r.typeMask i ≠ 0

def shown (r : StackReplies) : List CounterCount :=
  r.enabled.map fun i => (r.stack.toNat, i, r.count i)

def counters (r : StackReplies) : List (CounterSetup × UInt32) :=
  (CounterSetup.allOfReply r.setups).zip (counterValuesOfReply 64 (r.counts.fit 512))

def setupAt (r : StackReplies) (i : Nat) : CounterSetup :=
  (Bytes.fit (r.setups.drop (9 * i)) 9).read CounterSetup.read

example
    : let setups : Bytes := Bytes.zeros 18 ++ [0xFF] ++ Bytes.zeros 26 ++ [1, 0, 0, 4] ++ Bytes.zeros 518 ++ [0x80, 1, 0, 0]
      let counts : Bytes := Bytes.zeros 40 ++ [9] ++ Bytes.zeros 463 ++ [0, 1]
      shown ⟨1, setups, counts⟩ = [(1, 5, 9), (1, 63, 256)] := by
  decide +kernel

def title (r : StackReplies) : String :=
  s!"Stack {r.stack}:"

def row (r : StackReplies) (i : Nat) : String :=
  Report.counterRow i (r.setupAt i) (UInt32.ofNat (r.count i))

def rows (r : StackReplies) : List String :=
  if r.enabled = [] then [noCountersLine] else r.enabled.map r.row

section

variable (rs : List StackReplies)

end

end StackReplies
end PcieSwitch
