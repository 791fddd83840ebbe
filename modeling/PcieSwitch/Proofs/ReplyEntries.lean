import PcieSwitch.Counter.Operations
import PcieSwitch.Port.Binding
import PcieSwitch.Proofs.Layout
import PcieSwitch.Proofs.RegisterMemory

/-!
This module contains what the entries of a reply tell about event counters and about bindings, each part of an entry from
its place.
-/

namespace PcieSwitch

open Read

namespace CounterSetup

def ofEntry (entry : Bytes) : CounterSetup where
  portMask := entry.getD 0 0
  typeMask := UInt32.ofNat (Bytes.toNat ((entry.drop 1).take 3))
  egress := entry.getD 4 0 != 0
  threshold := UInt32.ofNat (Bytes.toNat ((entry.drop 5).take 4))

/--
The first four bytes are read as one word, which is then taken apart.
-/
theorem takes_ofEntry : read.Takes 9 ofEntry := by
  have h := takes_bind takes_u32 fun word => takes_bind takes_flag fun egress =>
    takes_map takes_u32 (CounterSetup.mk word.toUInt8 (word >>> 8) egress)
  apply takes_congr h
  intro entry hentry
  match entry, hentry with
  | [ports, low, middle, high, egress, a, b, c, d], _ =>
    have hword : Bytes.toNat [ports, low, middle, high] = ports.toNat + 256 * Bytes.toNat [low, middle, high] := rfl
    have hlt : Bytes.toNat [low, middle, high] < 256 ^ 3 := Bytes.toNat_lt [low, middle, high]
    have hports : (UInt32.ofNat (Bytes.toNat [ports, low, middle, high])).toUInt8 = ports := by
      apply UInt8.toNat.inj
      rw [UInt32.toNat_toUInt8, UInt32.toNat_ofNat', hword]
      have := ports.toNat_lt
      omega
    have hkinds : UInt32.ofNat (Bytes.toNat [ports, low, middle, high]) >>> 8
        = UInt32.ofNat (Bytes.toNat [low, middle, high]) := by
      apply UInt32.toNat.inj
      rw [UInt32.toNat_shiftRight, UInt32.toNat_ofNat', UInt32.toNat_ofNat', Nat.shiftRight_eq_div_pow, hword]
      have := ports.toNat_lt
      change _ / 2 ^ 8 = _
      omega
    have hegress : UInt8.ofNat (Bytes.toNat [egress]) = egress := UInt8.ofNat_toNat
    change CounterSetup.mk (UInt32.ofNat (Bytes.toNat [ports, low, middle, high])).toUInt8
      (UInt32.ofNat (Bytes.toNat [ports, low, middle, high]) >>> 8) (UInt8.ofNat (Bytes.toNat [egress]) != 0) _ = _
    rw [hports, hkinds, hegress]
    rfl

def entries (count : Nat) (reply : Bytes) : List CounterSetup :=
  (List.range count).map fun i => ofEntry (entry 9 reply i)

theorem ofReply_eq_entries {count : Nat} {reply : Bytes} (h : reply.length = 9 * count)
    : ofReply count reply = entries count reply :=
  read_of_takes (takes_times takes_ofEntry count) h

theorem entries_append {count : Nat} {reply : Bytes} (h : reply.length = 9 * count) (more : Bytes)
    : entries count (reply ++ more) = entries count reply := by
  apply List.map_congr_left
  intro i hi
  have hi := List.mem_range.mp hi
  rw [entry_append (by omega)]

end CounterSetup

def counterValueOfEntry (entry : Bytes) : UInt32 :=
  UInt32.ofNat (Bytes.toNat (entry.take 4))

theorem takes_readCounterValue : readCounterValue.Takes 8 counterValueOfEntry := by
  have h := takes_bind takes_u32 fun value => takes_map (takes_skip 4) fun _ => value
  exact h

def counterValueEntries (count : Nat) (reply : Bytes) : List UInt32 :=
  (List.range count).map fun i => counterValueOfEntry (entry 8 reply i)

theorem counterValuesOfReply_eq_entries {count : Nat} {reply : Bytes} (h : reply.length = 8 * count)
    : counterValuesOfReply count reply = counterValueEntries count reply :=
  read_of_takes (takes_times takes_readCounterValue count) h

theorem BindState.ofCode_eq (code : UInt8)
    : ofCode code
        =
      if code = 0 then .success else if code = 1 then .fail else if code = 2 then .inProgress else .unknown code := by
  have hcode : ∀ n : UInt8, code.toNat = n.toNat ↔ code = n := fun n => UInt8.toNat_inj
  unfold ofCode
  split
  . next h => rw [if_pos ((hcode 0).mp h)]
  . next h =>
    obtain rfl := (hcode 1).mp h
    rfl
  . next h =>
    obtain rfl := (hcode 2).mp h
    rfl
  . next h₀ h₁ h₂ =>
    rw [if_neg fun h => h₀ ((hcode 0).mpr h), if_neg fun h => h₁ ((hcode 1).mpr h),
      if_neg fun h => h₂ ((hcode 2).mpr h)]

namespace BindInfo

def ofEntry (entry : Bytes) : BindInfo where
  physical := entry.getD 0 0
  partition := entry.getD 1 0
  logical := entry.getD 2 0
  state :=
    if entry.getD 3 0 = 0 then .success
    else if entry.getD 3 0 = 1 then .fail
    else if entry.getD 3 0 = 2 then .inProgress
    else .unknown (entry.getD 3 0)

theorem takes_ofEntry : read.Takes 4 ofEntry := by
  have h := takes_bind takes_u8 fun physical => takes_bind takes_u8 fun partition => takes_bind takes_u8 fun logical =>
    takes_map takes_u8 fun state => BindInfo.mk physical partition logical (.ofCode state)
  apply takes_congr h
  intro entry hentry
  match entry, hentry with
  | [physical, partition, logical, state], _ =>
    have hbyte : ∀ b : UInt8, UInt8.ofNat (Bytes.toNat [b]) = b := fun _ => UInt8.ofNat_toNat
    change BindInfo.mk (UInt8.ofNat (Bytes.toNat [physical])) (UInt8.ofNat (Bytes.toNat [partition]))
      (UInt8.ofNat (Bytes.toNat [logical])) (.ofCode (UInt8.ofNat (Bytes.toNat [state]))) = _
    rw [hbyte, hbyte, hbyte, hbyte, BindState.ofCode_eq]
    rfl

/--
The first byte tells how many entries follow the first four bytes, but there is no room for more than one for each
physical port.
-/
def entries (reply : Bytes) : List BindInfo :=
  (List.range (min (reply.getD 0 0).toNat maxPhysicalPorts)).map fun i => ofEntry (entry 4 (reply.drop 4) i)

theorem readReply_eq_entries {reply : Bytes} (h : reply.length = 4 + 4 * maxPhysicalPorts)
    : reply.read readReply = entries reply := by
  cases reply with
  | nil => cases h
  | cons count rest =>
    have hcount : UInt8.ofNat (Bytes.toNat [count]) = count := UInt8.ofNat_toNat
    have hread : Bytes.read (count :: rest) readReply
        = (times (min (UInt8.ofNat (Bytes.toNat [count])).toNat maxPhysicalPorts) read ⟨rest.drop 3, 4⟩).1 := rfl
    rw [hread, hcount, takes_times takes_ofEntry]
    apply List.map_congr_left
    intro i hi
    have hi := List.mem_range.mp hi
    rw [entry_fit _ (by omega), Bytes.fit_eq_take]
    . rfl
    . simp only [List.length_drop]
      rw [List.length_cons] at h
      omega

end BindInfo
end PcieSwitch
