import PcieSwitch.Proofs.HexdumpFeeding
import PcieSwitch.Proofs.RegisterFetches
import PcieSwitch.Proofs.WrittenText
import PcieSwitch.Simulation.Console

/-!
This module contains the dump of registers. It fetches every register that was asked for once and in order, and shows
what they hold. If a fetch fails, it has shown the blocks before that and shows no more.
-/

namespace PcieSwitch

namespace Context

open Program Session

/--
A way to show bytes that come in blocks: what is shown of a block, and what follows the last one. It depends on the
bytes so far alone, as long as all blocks but the last one are whole.
-/
structure Display (σ : Type) where
  feed : σ → Bytes → σ × Bytes
  finish : σ → Session Unit
  after : Bytes → σ
  shown : Bytes → Bytes
  whole : Bytes → Bytes
  shown_nil : shown [] = []
  feed_after : ∀ {before : Bytes} (block : Bytes), dumpBlock ∣ before.length →
    (feed (after before) block).1 = after (before ++ block)
      ∧
    shown before ++ (feed (after before) block).2 = shown (before ++ block)
  finish_after : ∀ (data : Bytes) {u : List (Entry sessionInterface)} {result : Except Failure Unit},
    (finish (after data)).run.Yields u result →
      result = .ok ()
        ∧
      u.filterMap Entry.fetch? = []
        ∧
      shown data ++ (u.filterMap Entry.printed?).flatten = whole data

namespace Display

def dump (d : Display σ) (w : Registers) (state : σ) : List (Nat × Nat) → Session Unit
  | [] => d.finish state
  | (address, length) :: rest => do
    let data ← Session.ofDevice (w.readSpan address length)
    Session.ask (.print (d.feed state data).2)
    d.dump w (d.feed state data).1 rest

def raw : Display Unit where
  feed _ block := ((), block)
  finish _ := return
  after _ := ()
  shown data := data
  whole data := data
  shown_nil := rfl
  feed_after _ _ := ⟨rfl, rfl⟩
  finish_after data u result hyields := by
    obtain ⟨rfl, rfl⟩ := yields_done.mp hyields
    refine ⟨rfl, rfl, ?_⟩
    simp

def text : Display Hexdump where
  feed d block := ((d.feed block).1, Bytes.ofString (d.feed block).2)
  finish d := Session.print d.finish
  after before := ((Hexdump.start 0).feed before).1
  shown before := Bytes.ofString ((Hexdump.start 0).feed before).2
  whole data := Bytes.ofString (Hexdump.dump 0 data)
  shown_nil := by
    rw [Hexdump.feed_nil, Bytes.ofString_empty]
  feed_after {before} block h := by
    have hlines : Hexdump.lineLength ∣ before.length := Nat.dvd_trans (by decide) h
    rw [Hexdump.feed_append _ hlines, Bytes.ofString_append]
    exact ⟨rfl, rfl⟩
  finish_after data u result hyields := by
    obtain ⟨answer, rest, rfl, hrest⟩ := yields_ask.mp hyields
    obtain ⟨rfl, rfl⟩ := yields_done.mp hrest
    refine ⟨rfl, rfl, ?_⟩
    rw [Hexdump.dump, Bytes.ofString_append]
    simp [Entry.printed?]

def outcome (d : Display σ) (memory : Bytes) (stop : Nat) : Option (Nat × Error) → Except Failure Unit × Bytes
  | none => (.ok (), d.whole (memory.take stop))
  | some (place, cause) => (.error (.device cause), d.shown (memory.take (dumpBlock * (place / dumpBlock))))

variable {w : Registers} {outside : Handler sessionInterface σ} {memory : Bytes}

end Display

variable {outside : Handler sessionInterface σ} {memory : Bytes}

def ShowsNothing (call : SessionCall) : Prop :=
  ∀ answer, Entry.fetch? ⟨call, answer⟩ = none ∧ Entry.printed? ⟨call, answer⟩ = none

theorem registers_showsNothing (c : Context) : Session.AsksOnly ShowsNothing (c.registers false) :=
  c.registers_asks false (fun _ _ => ⟨rfl, rfl⟩) (fun _ _ _ => ⟨rfl, rfl⟩) fun _ _ => ⟨rfl, rfl⟩

theorem nothing_of_yields_registers {c : Context} {t : List (Entry sessionInterface)} {result : Except Failure Registers}
    (h : (c.registers false).run.Yields t result)
    : t.filterMap Entry.fetch? = [] ∧ t.filterMap Entry.printed? = [] := by
  have hnothing := c.registers_showsNothing t result h
  rw [List.filterMap_eq_nil_iff, List.filterMap_eq_nil_iff]
  exact ⟨fun entry hentry => (hnothing entry hentry entry.2).1, fun entry hentry => (hnothing entry hentry entry.2).2⟩

end Context
end PcieSwitch
