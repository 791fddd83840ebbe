import PcieSwitch.Bandwidth
import PcieSwitch.Latency
import PcieSwitch.Proofs.Layout

/-!
This module contains the layouts of the bandwidth and the latency counters of a port in a reply, each value at
its place in the port's entry.
-/

namespace PcieSwitch

def Traffic.ofEntry (data : Bytes) : Traffic where
  posted := UInt64.ofNat (Bytes.toNat (data.take 8))
  completion := UInt64.ofNat (Bytes.toNat ((data.drop 8).take 8))
  nonPosted := UInt64.ofNat (Bytes.toNat ((data.drop 16).take 8))

def Bandwidth.ofEntry (data : Bytes) : Bandwidth where
  time := UInt64.ofNat (Bytes.toNat (data.take 8))
  egress := .ofEntry ((data.drop 8).take 24)
  ingress := .ofEntry ((data.drop 32).take 24)

def Latency.ofEntry (data : Bytes) : Latency where
  current := UInt16.ofNat (Bytes.toNat (data.take 2))
  maximum := UInt16.ofNat (Bytes.toNat ((data.drop 2).take 2))

theorem Traffic.takes_read : Traffic.read.Takes 24 Traffic.ofEntry := by
  have h := Read.takes_bind Read.takes_u64 fun posted => Read.takes_bind Read.takes_u64
    fun completion => Read.takes_map Read.takes_u64 (Traffic.mk posted completion)
  apply Read.takes_congr h
  intro data hdata
  unfold ofEntry
  rw [List.drop_drop, List.take_of_length_le (l := data.drop 16) (by rw [List.length_drop]; omega)]

theorem Bandwidth.takes_read : Bandwidth.read.Takes 56 Bandwidth.ofEntry := by
  have h := Read.takes_bind Read.takes_u64 fun time => Read.takes_bind Traffic.takes_read
    fun egress => Read.takes_map Traffic.takes_read (Bandwidth.mk time egress)
  apply Read.takes_congr h
  intro data hdata
  unfold ofEntry
  rw [List.drop_drop, List.take_of_length_le (l := data.drop 32) (by rw [List.length_drop]; omega)]

theorem Latency.takes_read : Latency.read.Takes 4 Latency.ofEntry := by
  have h := Read.takes_bind Read.takes_u16 fun current =>
    Read.takes_map Read.takes_u16 (Latency.mk current)
  apply Read.takes_congr h
  intro data hdata
  unfold ofEntry
  rw [List.take_of_length_le (l := data.drop 2) (by rw [List.length_drop]; omega)]

theorem Bandwidth.ofReply_eq_map {count : Nat} {reply : Bytes} (h : reply.length = 56 * count)
    : Bandwidth.ofReply count reply
        =
      (List.range count).map fun i => Bandwidth.ofEntry (Read.entry 56 reply i) := by
  apply Read.read_of_takes (Read.takes_times takes_read count) h

theorem Latency.ofReply_eq_map {count : Nat} {reply : Bytes} (h : reply.length = 4 * count)
    : Latency.ofReply count reply
        =
      (List.range count).map fun i => Latency.ofEntry (Read.entry 4 reply i) := by
  apply Read.read_of_takes (Read.takes_times takes_read count) h

end PcieSwitch
