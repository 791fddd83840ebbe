import PcieSwitch.CharDevice.Interface
import PcieSwitch.Wire.Field
import PcieSwitch.Wire.Cursor

/-!
This module contains the reports of events over the character device, by control calls and polling. The
structures that they pass are little-endian, with the fields at their natural alignment.
-/

namespace PcieSwitch

namespace Summary

def shortFunctions : Nat := 48

def readStructure (functions : Nat) : Read Summary := do
  let global ← Read.u64
  let partitionBitmap ← Read.u64
  let localPartition ← Read.u32
  Read.skip 4
  let partitions ← Read.times maxPartitions Read.u32
  let words ← Read.times functions Read.u32
  return {
    global
    partitionBitmap
    localPartition
    partitions
    functions := words ++ List.replicate (maxFunctions - functions) 0
  }

end Summary

namespace EventCall

def urgent : UInt16 := 2

def broken : UInt16 := 8

def pollTime : Option Nanoseconds → Int
  | none => -1
  | some t => min (t / 1000000) 0x7FFFFFFF

def summaryOverFile : FileWork Summary :=
  tryCatch (full .summary maxFunctions) fun _ => full .shortSummary Summary.shortFunctions
where
  full (c : Ioctl) (functions : Nat) : FileWork Summary := do
    return (← FileWork.control c (.zeros c.size)).read (Summary.readStructure functions)

def controlFields (event : Event) (index : EventIndex) (flags : UInt32) : List Field := [
  .u32 (UInt32.ofNat event.number),
  .u32 index.code.toUInt32,
  .u32 flags,
  .zeros 28
]

def readCount : Read UInt32 := do
  Read.skip 16
  Read.u32

def waitOverFile (timeout : Option Nanoseconds) : FileWork Bool := do
  let (ready, conditions) ← FileWork.poll urgent (pollTime timeout)
  if ready = 0 then
    return false
  if conditions &&& broken ≠ 0 then
    throw (.system .noDevice)
  return conditions &&& urgent ≠ 0

def overFile : (c : EventCall) → FileWork c.Value
  | .summary => summaryOverFile
  | .control event index flags => do
    return (← FileWork.control .control (.ofFields (controlFields event index flags))).read readCount
  | .wait timeout => waitOverFile timeout
  | .portOf function => do
    let data ← FileWork.control .portOf (.ofFields [.u32 (UInt32.ofNat function), .zeros 8])
    return data.read do
      Read.skip 4
      let partition ← Read.u32
      let port ← Read.u32
      return (partition, port)
  | .functionOf partition port => do
    let data ← FileWork.control .functionOf (.ofFields [.zeros 4, .u32 partition, .u32 port])
    return (data.read Read.u32).toNat

end EventCall
end PcieSwitch
