import PcieSwitch.Device.Request
import PcieSwitch.Proofs.Bytes

/-!
This module contains the reading of requests: which request the number and the payload of a command spell. A
payload is read field by field, in the order in which it was laid out.
-/

namespace PcieSwitch

namespace Read

def Reads (action : Read α) (fields : List Field) (value : α) : Prop :=
  ∀ rest position,
    action ⟨Bytes.ofFields fields ++ rest, position⟩
      =
    (value, ⟨rest, position + (Bytes.ofFields fields).length⟩)

namespace Reads

variable {action : Read α} {f : α → Read β} {fields others : List Field} {value : α} {result : β}

theorem pure (value : α) : (Pure.pure value : Read α).Reads [] value := by
  intro rest position
  rfl

theorem bind (h : action.Reads fields value) (hf : (f value).Reads others result)
    : (action >>= f).Reads (fields ++ others) result := by
  intro rest position
  rw [Bytes.ofFields_append, List.append_assoc, List.length_append, ← Nat.add_assoc]
  change f (action _).1 (action _).2 = _
  rw [h, hf]

theorem map (h : action.Reads fields value) (f : α → β)
    : (action >>= fun a => Pure.pure (f a)).Reads fields (f value) := by
  rw [← List.append_nil fields]
  exact h.bind (pure _)

theorem read_eq (h : action.Reads fields value) : (Bytes.ofFields fields).read action = value := by
  have hread := h [] 0
  rw [List.append_nil] at hread
  unfold Bytes.read Cursor.start
  rw [hread]

end Reads

theorem reads_bytes {data : Bytes} {n : Nat} {fields : List Field} (hfields : Bytes.ofFields fields = data)
    (hlength : data.length = n) : (bytes n).Reads fields data := by
  intro rest position
  rw [hfields, ← hlength]
  unfold bytes
  rw [Bytes.fit_eq_take (by simp), List.take_left, List.drop_left]

theorem reads_data {data : Bytes} {n : Nat} (h : data.length = n) : (bytes n).Reads [.bytes data] data := by
  exact reads_bytes (by simp) h

theorem reads_u8 (value : UInt8) : u8.Reads [.u8 value] value := by
  have h : (bytes 1).Reads [.u8 value] [value] := reads_bytes (by simp) rfl
  have hvalue : UInt8.ofNat (Bytes.toNat [value]) = value := by
    rw [Bytes.toNat, Bytes.toNat, Nat.mul_zero, Nat.add_zero, UInt8.ofNat_toNat]
  have hread := h.map fun data => UInt8.ofNat data.toNat
  rw [hvalue] at hread
  exact hread

theorem reads_u16 (value : UInt16) : u16.Reads [.u16 value] value := by
  have h : (bytes 2).Reads [.u16 value] (Bytes.ofNat 2 value.toNat) :=
    reads_bytes (List.append_nil _) (Bytes.length_ofNat 2 _)
  have hread := h.map fun data => UInt16.ofNat data.toNat
  rw [Bytes.toNat_ofNat value.toNat_lt, UInt16.ofNat_toNat] at hread
  exact hread

theorem reads_u32 (value : UInt32) : u32.Reads [.u32 value] value := by
  have h : (bytes 4).Reads [.u32 value] (Bytes.ofNat 4 value.toNat) :=
    reads_bytes (List.append_nil _) (Bytes.length_ofNat 4 _)
  have hread := h.map fun data => UInt32.ofNat data.toNat
  rw [Bytes.toNat_ofNat value.toNat_lt, UInt32.ofNat_toNat] at hread
  exact hread

theorem reads_u64 (value : UInt64) : u64.Reads [.u64 value] value := by
  have h : (bytes 8).Reads [.u64 value] (Bytes.ofNat 8 value.toNat) :=
    reads_bytes (List.append_nil _) (Bytes.length_ofNat 8 _)
  have hread := h.map fun data => UInt64.ofNat data.toNat
  rw [Bytes.toNat_ofNat value.toNat_lt, UInt64.ofNat_toNat] at hread
  exact hread

theorem reads_flag (value : Bool) : flag.Reads [.flag value] value := by
  have hread := (reads_u8 value.toUInt8).map fun byte => byte != 0
  cases value <;> exact hread

theorem reads_skip (n : Nat) : (skip n).Reads [.zeros n] () := by
  intro rest position
  have hlength : (Bytes.ofFields [.zeros n]).length = n := by simp [Field.width]
  unfold skip
  rw [List.drop_left' hlength, hlength]

theorem reads_times {item : Read β} {fields : α → List Field} {value : α → β}
    (h : ∀ x, item.Reads (fields x) (value x)) (xs : List α)
    : (times xs.length item).Reads (xs.flatMap fields) (xs.map value) := by
  induction xs with
  | nil => apply Reads.pure
  | cons x xs ih =>
    rw [List.flatMap_cons, List.map_cons]
    unfold times
    apply (h x).bind
    apply ih.map

end Read

open Read

namespace CounterSetup

def Narrow (s : CounterSetup) : Prop :=
  s.typeMask.toNat < 2 ^ 24

def word (s : CounterSetup) : UInt32 :=
  ((s.typeMask &&& 0xFFFFFF) <<< 8) ||| s.portMask.toUInt32

theorem toNat_word (s : CounterSetup)
    : s.word.toNat = s.typeMask.toNat % 2 ^ 24 * 2 ^ 8 + s.portMask.toNat := by
  have hmask : (s.typeMask &&& 0xFFFFFF).toNat = s.typeMask.toNat % 2 ^ 24 := by
    rw [UInt32.toNat_and]
    exact Nat.and_two_pow_sub_one_eq_mod s.typeMask.toNat 24
  have hshift : ((s.typeMask &&& 0xFFFFFF) <<< 8).toNat = (s.typeMask.toNat % 2 ^ 24) <<< 8 := by
    rw [UInt32.toNat_shiftLeft, hmask]
    apply Nat.mod_eq_of_lt
    rw [Nat.shiftLeft_eq]
    change _ * 2 ^ 8 < _
    omega
  unfold word
  rw [UInt32.toNat_or, hshift, UInt8.toNat_toUInt32]
  rw [← Nat.shiftLeft_add_eq_or_of_lt s.portMask.toNat_lt, Nat.shiftLeft_eq]

theorem reads_read {s : CounterSetup} (h : s.Narrow) : CounterSetup.read.Reads s.fields s := by
  have hword := s.toNat_word
  rw [Nat.mod_eq_of_lt h] at hword
  have hbyte := s.portMask.toNat_lt
  have hport : s.word.toUInt8 = s.portMask := by
    apply UInt8.toNat.inj
    rw [UInt32.toNat_toUInt8, hword]
    omega
  have htype : s.word >>> 8 = s.typeMask := by
    apply UInt32.toNat.inj
    rw [UInt32.toNat_shiftRight, hword]
    change (_ : Nat) >>> 8 = _
    rw [Nat.shiftRight_eq_div_pow]
    omega
  have hvalue : CounterSetup.mk s.word.toUInt8 (s.word >>> 8) s.egress s.threshold = s := by
    rw [hport, htype]
  have hread : CounterSetup.read.Reads s.fields ⟨s.word.toUInt8, s.word >>> 8, s.egress, s.threshold⟩ := by
    apply (reads_u32 s.word).bind
    apply (reads_flag s.egress).bind
    apply (reads_u32 s.threshold).map
  rw [hvalue] at hread
  exact hread

end CounterSetup

def BandwidthKind.read : Read BandwidthKind := do
  return if (← Read.u8) = 0 then .raw else .payload

theorem BandwidthKind.reads_read (kind : BandwidthKind) : BandwidthKind.read.Reads [.u8 kind.number] kind := by
  have hread := (reads_u8 kind.number).map fun number => if number = 0 then raw else payload
  cases kind <;> exact hread

namespace Request

/--
A request that the operations send: a page of entries has at least one and no more than one command carries, and
a setup names no kind that has no place on the wire.
-/
def Emittable : Request → Prop
  | .setupCounter _ _ setup => setup.Narrow
  | .bandwidth ports _ => 1 ≤ ports.length ∧ ports.length ≤ 16
  | .selectBandwidth ports _ | .latency ports _ => 1 ≤ ports.length ∧ ports.length ≤ 48
  | .setupLatency pairs => 1 ≤ pairs.length ∧ pairs.length ≤ 48
  | .writeWindow _ data => 8 + data.length ≤ maxDataLength
  | _ => True

def readTemperatureOrder : Read (Option Request) := do
  match (← Read.u32).toNat with
  | 1 => return some .measureTemperature
  | 2 => return some .readTemperature
  | _ => return none

def readBinding : Read (Option Request) := do
  match (← Read.u8).toNat with
  | 0 =>
    let physical ← Read.u8
    Read.skip 2
    return some (.bindInfo physical)
  | 1 =>
    let partition ← Read.u8
    let logical ← Read.u8
    let physical ← Read.u8
    return some (.bind partition logical physical)
  | 2 =>
    let partition ← Read.u8
    let logical ← Read.u8
    let _ ← Read.u8
    return some (.unbind partition logical)
  | _ => return none

/--
The rate of spoilt checksums has a place of its own in the fifth generation.
-/
def readInjection (generation : Generation) : Read (Option Request) := do
  let kind ← Read.u8
  let port ← Read.u8
  match kind.toNat with
  | 0 =>
    Read.skip 2
    let data ← Read.u32
    return some (.injectDllp port data)
  | 1 =>
    let enable ← Read.flag
    Read.skip 1
    let rate ← Read.u16
    Read.skip 2
    return some (.injectDllpCrc port enable rate)
  | 2 =>
    let enable ← Read.flag
    match generation with
    | .gen5 =>
      Read.skip 1
      let rate ← Read.u8
      Read.skip 3
      return some (.injectTlpLcrc port enable rate)
    | _ =>
      let rate ← Read.u8
      return some (.injectTlpLcrc port enable rate)
  | 3 =>
    Read.skip 2
    return some (.injectTlpSequence port)
  | 4 =>
    Read.skip 2
    let sequence ← Read.u16
    let count ← Read.u8
    Read.skip 1
    return some (.injectNack port sequence count)
  | 5 =>
    Read.skip 2
    return some (.injectCreditTimeout port)
  | _ => return none

def readEntries (option : Read α) : Read (List (UInt8 × α)) := do
  let count ← Read.u8
  Read.times count.toNat do
    let port ← Read.u8
    let value ← option
    return (port, value)

def readPorts (option : Read α) : Read (Option (List UInt8 × α)) := do
  let entries ← readEntries option
  return entries.head?.map fun entry => (entries.map Prod.fst, entry.2)

def readMonitoring : Read (Option Request) := do
  match (← Read.u8).toNat with
  | 1 =>
    let stack ← Read.u8
    let counter ← Read.u8
    let count ← Read.u8
    let clear ← Read.flag
    return some (.counterValues stack counter count clear)
  | 2 =>
    let stack ← Read.u8
    let counter ← Read.u8
    let _ ← Read.u8
    let setup ← CounterSetup.read
    Read.skip ((setupSlots - 1) * CounterSetup.wireSize)
    return some (.setupCounter stack counter setup)
  | 3 =>
    let stack ← Read.u8
    let counter ← Read.u8
    let count ← Read.u8
    let _ ← Read.flag
    return some (.counterSetups stack counter count)
  | 4 =>
    let page ← readPorts Read.flag
    return page.map fun (ports, clear) => .bandwidth ports clear
  | 5 =>
    let page ← readPorts BandwidthKind.read
    return page.map fun (ports, kind) => .selectBandwidth ports kind
  | 6 =>
    let count ← Read.u8
    let clear ← Read.flag
    let ports ← Read.bytes count.toNat
    return some (.latency ports clear)
  | 7 =>
    let entries ← readEntries Read.u8
    return some (.setupLatency entries)
  | _ => return none

def readWindowSpan : Read (Option Request) := do
  let offset ← Read.u32
  let length ← Read.u32
  return some (.readWindow offset length)

def readWindowData : Read (Option Request) := do
  let offset ← Read.u32
  let length ← Read.u32
  let data ← Read.bytes length.toNat
  return some (.writeWindow offset data)

def readPayload (generation : Generation) : Command → Read (Option Request)
  | .echo => do return some (.echo (← Read.u32))
  | .reset => do
    let _ ← Read.u32
    return some .reset
  | .dieTemperature => readTemperatureOrder
  | .linkStatus => do
    let _ ← Read.u64
    return some .linkStatus
  | .portPartition => readBinding
  | .errorInjection => readInjection generation
  | .performanceMonitor => readMonitoring
  | .gasRead => readWindowSpan
  | .gasWrite => readWindowData
  | _ => return none

def ofWire? (generation : Generation) (number : UInt32) (payload : Bytes) : Option Request := do
  let c ← Command.all.find? (·.id == number)
  payload.read (readPayload generation c)

theorem reads_readEntries {option : Read α} {field : α → Field} (hoption : ∀ value, option.Reads [field value] value)
    {entries : List (UInt8 × α)} (hlength : entries.length < 256)
    : (readEntries option).Reads (count entries :: entries.flatMap fun entry => [.u8 entry.1, field entry.2])
        entries := by
  have hcount : (UInt8.ofNat entries.length).toNat = entries.length := UInt8.toNat_ofNat_of_lt' hlength
  have hentry : ∀ entry : UInt8 × α, (do
      let port ← Read.u8
      let value ← option
      return (port, value) : Read (UInt8 × α)).Reads [.u8 entry.1, field entry.2] entry := by
    intro entry
    apply (reads_u8 entry.1).bind
    apply (hoption entry.2).map
  have htimes := reads_times hentry entries
  rw [List.map_id', ← hcount] at htimes
  unfold readEntries
  apply (reads_u8 _).bind htimes

theorem reads_readPorts {option : Read α} {field : α → Field} (hoption : ∀ value, option.Reads [field value] value)
    {ports : List UInt8} (hnonempty : 1 ≤ ports.length) (hlength : ports.length < 256) (value : α)
    : (readPorts option).Reads (count ports :: ports.flatMap fun port => [.u8 port, field value])
        (some (ports, value)) := by
  have hcount : (ports.map (·, value)).length < 256 := by rwa [List.length_map]
  have hread := (reads_readEntries hoption hcount).map fun entries =>
    entries.head?.map fun entry => (entries.map Prod.fst, entry.2)
  have hports : (ports.map (·, value)).map Prod.fst = ports := by
    rw [List.map_map]
    exact List.map_id ports
  have hfirst : (ports.map (·, value)).head?.map (fun entry => (ports, entry.2)) = some (ports, value) := by
    obtain ⟨port, rest, rfl⟩ := List.exists_cons_of_length_pos hnonempty
    rfl
  rw [hports, hfirst, List.flatMap_map, count, List.length_map] at hread
  exact hread

theorem reads_readPayload (generation : Generation) {r : Request} (h : r.Emittable)
    : (readPayload generation r.command).Reads (r.fields generation) (some r) := by
  cases r with
  | echo word => exact (reads_u32 word).map _
  | reset => exact (reads_u32 0).map _
  | measureTemperature => exact (reads_u32 1).bind (.pure _)
  | readTemperature => exact (reads_u32 2).bind (.pure _)
  | linkStatus => exact (reads_u64 0).map _
  | bindInfo physical =>
    apply (reads_u8 0).bind
    apply (reads_u8 physical).bind
    apply (reads_skip 2).map
  | bind partition logical physical =>
    apply (reads_u8 1).bind
    apply (reads_u8 partition).bind
    apply (reads_u8 logical).bind
    apply (reads_u8 physical).map
  | unbind partition logical =>
    apply (reads_u8 2).bind
    apply (reads_u8 partition).bind
    apply (reads_u8 logical).bind
    apply (reads_u8 2).map
  | injectDllp port data =>
    apply (reads_u8 0).bind
    apply (reads_u8 port).bind
    apply (reads_skip 2).bind
    apply (reads_u32 data).map
  | injectDllpCrc port enable rate =>
    apply (reads_u8 1).bind
    apply (reads_u8 port).bind
    apply (reads_flag enable).bind
    apply (reads_skip 1).bind
    apply (reads_u16 rate).bind
    apply (reads_skip 2).map
  | injectTlpLcrc port enable rate =>
    apply (reads_u8 2).bind
    apply (reads_u8 port).bind
    apply (reads_flag enable).bind
    cases generation with
    | gen5 =>
      apply (reads_skip 1).bind
      apply (reads_u8 rate).bind
      apply (reads_skip 3).map
    | gen3 | gen4 | unknown => apply (reads_u8 rate).map
  | injectTlpSequence port =>
    apply (reads_u8 3).bind
    apply (reads_u8 port).bind
    apply (reads_skip 2).map
  | injectNack port sequence count =>
    apply (reads_u8 4).bind
    apply (reads_u8 port).bind
    apply (reads_skip 2).bind
    apply (reads_u16 sequence).bind
    apply (reads_u8 count).bind
    apply (reads_skip 1).map
  | injectCreditTimeout port =>
    apply (reads_u8 5).bind
    apply (reads_u8 port).bind
    apply (reads_skip 2).map
  | setupCounter stack counter setup =>
    apply (reads_u8 2).bind
    apply (reads_u8 stack).bind
    apply (reads_u8 counter).bind
    apply (reads_u8 1).bind
    apply (CounterSetup.reads_read h).bind
    apply (reads_skip _).map
  | counterSetups stack counter count =>
    apply (reads_u8 3).bind
    apply (reads_u8 stack).bind
    apply (reads_u8 counter).bind
    apply (reads_u8 count).bind
    apply (reads_flag false).map
  | counterValues stack counter count clear =>
    apply (reads_u8 1).bind
    apply (reads_u8 stack).bind
    apply (reads_u8 counter).bind
    apply (reads_u8 count).bind
    apply (reads_flag clear).map
  | bandwidth ports clear =>
    obtain ⟨hnonempty, hlength⟩ := h
    apply (reads_u8 4).bind
    apply (reads_readPorts reads_flag hnonempty (by omega) clear).map
  | selectBandwidth ports kind =>
    obtain ⟨hnonempty, hlength⟩ := h
    apply (reads_u8 5).bind
    apply (reads_readPorts BandwidthKind.reads_read hnonempty (by omega) kind).map
  | setupLatency pairs =>
    have hlength := h.2
    apply (reads_u8 7).bind
    apply (reads_readEntries reads_u8 (by omega)).map
  | latency ports clear =>
    have hcount : (UInt8.ofNat ports.length).toNat = ports.length :=
      UInt8.toNat_ofNat_of_lt' (Nat.lt_of_le_of_lt h.2 (by decide))
    apply (reads_u8 6).bind
    apply (reads_u8 _).bind
    apply (reads_flag clear).bind
    apply (reads_data hcount.symm).map
  | readWindow offset length =>
    apply (reads_u32 offset).bind
    apply (reads_u32 length).map
  | writeWindow offset data =>
    have hlength : data.length ≤ maxDataLength := Nat.le_trans (Nat.le_add_left _ _) h
    have hcount : (UInt32.ofNat data.length).toNat = data.length :=
      UInt32.toNat_ofNat_of_lt' (Nat.lt_of_le_of_lt hlength (by decide))
    apply (reads_u32 offset).bind
    apply (reads_u32 _).bind
    apply (reads_data hcount.symm).map

theorem ofWire?_payload (generation : Generation) {r : Request} (h : r.Emittable)
    : ofWire? generation r.command.id (r.payload generation) = some r := by
  have hcommand : Command.all.find? (·.id == r.command.id) = some r.command := by
    cases r <;> rfl
  have hread : (r.payload generation).read (readPayload generation r.command) = some r :=
    (reads_readPayload generation h).read_eq
  unfold ofWire?
  rw [hcommand, Option.bind_eq_bind, Option.bind_some, hread]

end Request
end PcieSwitch
