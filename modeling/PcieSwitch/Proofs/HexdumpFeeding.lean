import Mathlib.Data.Nat.Basic
import PcieSwitch.Hexdump
import PcieSwitch.Proofs.Pages

/-!
This module contains the theory of feeding a dump: what comes in whole lines may as well come together with
what follows.
-/

namespace PcieSwitch
namespace Hexdump

def dump (address : Nat) (data : Bytes) : String :=
  let (d, text) := (start address).feed data
  text ++ d.finish

@[simp]
theorem feedLines_nil (d : Hexdump) : d.feedLines [] = (d, "") := by
  rfl

theorem feedLines_cons (d : Hexdump) (data : Bytes) (rest : List Bytes)
    : d.feedLines (data :: rest)
        =
      (((d.feedLine data).1.feedLines rest).1,
        (d.feedLine data).2 ++ ((d.feedLine data).1.feedLines rest).2) := by
  rfl

theorem feedLines_append (d : Hexdump) (first second : List Bytes)
    : d.feedLines (first ++ second)
        =
      (((d.feedLines first).1.feedLines second).1,
        (d.feedLines first).2 ++ ((d.feedLines first).1.feedLines second).2) := by
  induction first generalizing d with
  | nil => simp
  | cons data rest ih =>
    rw [List.cons_append, feedLines_cons, ih, feedLines_cons]
    simp [String.append_assoc]

def Repeats (d : Hexdump) (data : Bytes) : Prop :=
  data.length = lineLength ∧ d.last = some data

instance (d : Hexdump) (data : Bytes) : Decidable (d.Repeats data) :=
  inferInstanceAs (Decidable (_ ∧ _))

theorem feedLine_of_repeats {d : Hexdump} {data : Bytes} (h : d.Repeats data)
    : d.feedLine data
        =
      (⟨d.address + lineLength, some data, true⟩, if d.squeezed then "" else "*\n") := by
  obtain ⟨hlength, hlast⟩ := h
  unfold feedLine
  simp only [if_pos hlength]
  rw [if_pos ⟨rfl, hlast⟩, hlength]

theorem feedLine_of_not_repeats {d : Hexdump} {data : Bytes} (h : ¬ d.Repeats data)
    : d.feedLine data
        =
      (⟨d.address + data.length, if data.length = lineLength then some data else none, false⟩,
        line d.address data) := by
  unfold feedLine
  simp only
  rw [if_neg]
  intro ⟨hfull, hlast⟩
  split at hfull
  . next hlength =>
    rw [if_pos hlength] at hlast
    exact h ⟨hlength, hlast⟩
  . contradiction

@[simp]
theorem address_feedLine (d : Hexdump) (data : Bytes)
    : (d.feedLine data).1.address = d.address + data.length := by
  by_cases h : d.Repeats data
  . rw [feedLine_of_repeats h, h.1]
  . rw [feedLine_of_not_repeats h]

theorem last_feedLine (d : Hexdump) (data : Bytes)
    : (d.feedLine data).1.last = if data.length = lineLength then some data else none := by
  by_cases h : d.Repeats data
  . rw [feedLine_of_repeats h, if_pos h.1]
  . rw [feedLine_of_not_repeats h]

@[simp]
theorem feed_nil (d : Hexdump) : d.feed [] = (d, "") := by
  unfold feed
  rw [pages_nil, feedLines_nil]

theorem feed_append (d : Hexdump) {first : Bytes} (h : lineLength ∣ first.length) (second : Bytes)
    : d.feed (first ++ second)
        =
      (((d.feed first).1.feed second).1, (d.feed first).2 ++ ((d.feed first).1.feed second).2) := by
  unfold feed
  rw [pages_append (by decide) h, feedLines_append]

theorem address_feedLines (d : Hexdump) (lines : List Bytes)
    : (d.feedLines lines).1.address = d.address + lines.flatten.length := by
  induction lines generalizing d with
  | nil => simp
  | cons data rest ih =>
    rw [feedLines_cons, ih, address_feedLine]
    simp [Nat.add_assoc]

theorem address_feed (d : Hexdump) (data : Bytes) : (d.feed data).1.address = d.address + data.length := by
  unfold feed
  rw [address_feedLines, flatten_pages (by decide)]

end Hexdump
end PcieSwitch
