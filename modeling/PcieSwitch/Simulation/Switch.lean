import PcieSwitch.CharDevice.Events
import PcieSwitch.CharDevice.Packet
import PcieSwitch.Device.Handle

/-!
This module contains a simulated switch, which answers from scripts. Its firmware and its driver can be
scripted directly, or one level below, as the character device that they are reached through.
-/

namespace PcieSwitch

namespace Simulation

inductive Reply where
  | data (bytes : Bytes)
  | complement
  | failure (e : Error)
  deriving DecidableEq, Repr

structure KernelAnswer where
  failure : Option SystemError := none
  pieces : List (Nat × Bytes) := []
  ready : Nat := 1
  conditions : UInt16 := 0
  deriving DecidableEq, Repr

/--
What the driver says about events. Port functions have the partitions and ports that a table gives them.
-/
structure EventScript where
  summaries : List (Except Error Summary) := []
  waits : List (Except Error Bool) := []
  counts : List (Except Error UInt32) := []
  places : List (Nat × UInt32 × UInt32) := []

inductive CommandSource where
  | replies (script : List Reply)
  | packets (script : List Bytes)

inductive EventSource where
  | absent
  | reports (script : EventScript)
  | kernel (script : List KernelAnswer)

def EventSource.isAbsent : EventSource → Bool
  | .absent => true
  | _ => false

inductive Happening where
  | device (c : DeviceCall)
  | file (c : FileCall)

/--
What is left of the scripts, and what has happened, the latest first. The clock stands still.
-/
structure Switch where
  commands : CommandSource := .replies []
  events : EventSource := .absent
  happened : List Happening := []

namespace Switch

def note (s : Switch) (h : Happening) : Switch :=
  { s with happened := h :: s.happened }

def next (script : List α) (exhausted : α) : α × List α :=
  match script with
  | [] => (exhausted, [])
  | first :: rest => (first, rest)

def nextKernelAnswer (s : Switch) : KernelAnswer × Switch :=
  match s.events with
  | .kernel script =>
    let (answer, script) := next script { failure := some .notATerminal }
    (answer, { s with events := .kernel script })
  | _ => ({ failure := some .notATerminal }, s)

/--
The character device. Writes are taken whole, and each read takes one packet, cut to the read's size.
-/
def file : Handler fileInterface Switch
  | .write data, s => (.ok data.length, s.note (.file (.write data)))
  | .read length, s =>
    match s.commands with
    | .packets script =>
      let (packet, script) := next script []
      (.ok (packet.take length), { s with commands := .packets script })
    | .replies _ => (.ok [], s)
  | .control c data, s =>
    let (answer, s) := (s.note (.file (.control c data))).nextKernelAnswer
    match answer.failure with
    | some e => (.error e, s)
    | none => (.ok (answer.pieces.foldl (fun data (offset, piece) => data.overwrite offset piece) data), s)
  | .poll conditions timeout, s =>
    let (answer, s) := (s.note (.file (.poll conditions timeout))).nextKernelAnswer
    match answer.failure with
    | some e => (.error e, s)
    | none => (.ok (answer.ready, answer.conditions), s)

def replyTo (x : Exchange) : Reply → Except Error Bytes
  | .data bytes => .ok (bytes.fit x.replyLength)
  | .complement => .ok (Bytes.fit (x.payload.map fun b => ~~~b) x.replyLength)
  | .failure e => .error e

def answerCommand (x : Exchange) : StateM Switch (Except Error Bytes) := fun s =>
  match s.commands with
  | .replies script =>
    let (reply, script) := next script (.data [])
    (replyTo x reply, { s.note (.device (.exchange x)) with commands := .replies script })
  | .packets _ => x.overFile.run.run file s

def answerReport (script : EventScript) : (c : EventCall) → c.Answer × EventScript
  | .summary =>
    let (answer, summaries) := next script.summaries (.ok .empty)
    (answer, { script with summaries })
  | .control .. =>
    let (answer, counts) := next script.counts (.ok 0)
    (answer, { script with counts })
  | .wait _ =>
    let (answer, waits) := next script.waits (.error (.system (.other "wait script exhausted")))
    (answer, { script with waits })
  | .portOf function =>
    let place := (script.places.find? (·.1 == function)).map Prod.snd
    (place.elim (.error (.portOutOfRange function)) .ok, script)
  | .functionOf partition port =>
    let function := (script.places.find? (·.2 == (partition, port))).map Prod.fst
    (function.elim (.error (.portOutOfRange port.toNat)) .ok, script)

def answerEvent (c : EventCall) : StateM Switch c.Answer := fun s =>
  match s.events with
  | .reports script =>
    let (answer, script) := answerReport script c
    (answer, { s.note (.device (.event c)) with events := .reports script })
  | _ => c.overFile.run.run file s

def device : Handler deviceInterface Switch
  | .exchange x, s => answerCommand x s
  | .event c, s => answerEvent c s
  | .now, s => (0, s)
  | .log line, s => ((), s.note (.device (.log line)))

def wakeups (s : Switch) : Nat :=
  match s.events with
  | .absent => 0
  | .reports script => script.waits.length + 1
  | .kernel script => script.length + 1

def handle (s : Switch) (name : String) (partition : UInt8) (generation : Generation) : Handle where
  name
  partition
  generation
  hasEvents := !s.events.isAbsent
  wakeups := s.wakeups

def perform (operation : Operation α) (s : Switch) : Except Error α × Switch :=
  operation.run.run device s

end Switch
end Simulation
end PcieSwitch
