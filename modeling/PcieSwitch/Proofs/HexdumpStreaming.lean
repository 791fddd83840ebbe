import Mathlib.Algebra.Group.Nat.Defs
import PcieSwitch.Proofs.HexdumpFeeding

/-!
This module contains dumps that are fed block by block. As long as all blocks but the last one are whole lines, it does
not matter where the bytes are cut: what a dump remembers of the blocks so far is what it would remember of their bytes.
-/

namespace PcieSwitch
namespace Hexdump

def feedAll (d : Hexdump) : List Bytes → Hexdump × List String
  | [] => (d, [])
  | block :: rest =>
    let (d, text) := d.feed block
    let (d, texts) := d.feedAll rest
    (d, text :: texts)

def stream (address : Nat) (blocks : List Bytes) : List String :=
  let (d, texts) := (start address).feedAll blocks
  texts ++ [d.finish]

def WholeLines (blocks : List Bytes) : Prop :=
  ∀ block ∈ blocks.dropLast, lineLength ∣ block.length

@[simp]
theorem feedAll_nil (d : Hexdump) : d.feedAll [] = (d, []) := by
  rfl

theorem feedAll_cons (d : Hexdump) (block : Bytes) (rest : List Bytes)
    : d.feedAll (block :: rest)
        =
      (((d.feed block).1.feedAll rest).1, (d.feed block).2 :: ((d.feed block).1.feedAll rest).2) := by
  rfl

theorem WholeLines.tail {block : Bytes} {rest : List Bytes} (h : WholeLines (block :: rest)) : WholeLines rest := by
  intro other hother
  apply h
  cases rest with
  | nil => contradiction
  | cons next rest => exact List.mem_cons_of_mem _ hother

theorem WholeLines.take {blocks : List Bytes} (h : WholeLines blocks) (count : Nat)
    : WholeLines (blocks.take count) := by
  intro block hblock
  apply h
  rw [List.dropLast_eq_take, List.take_take] at hblock
  rw [List.dropLast_eq_take]
  apply List.take_subset_take_left _ _ hblock
  rw [List.length_take]
  omega

/--
Blocks may as well be fed at once. What is carried over from one to the next is the state that feeding the bytes so
far at once would leave.
-/
theorem feedAll_eq_feed (d : Hexdump) {blocks : List Bytes} (h : WholeLines blocks)
    : ((d.feedAll blocks).1, String.join (d.feedAll blocks).2) = d.feed blocks.flatten := by
  induction blocks generalizing d with
  | nil => simp
  | cons block rest ih =>
    have hrest := ih (d.feed block).1 h.tail
    rw [Prod.mk.injEq] at hrest
    rw [feedAll_cons, String.join_cons, hrest.1, hrest.2, List.flatten_cons]
    cases rest with
    | nil => simp
    | cons next rest =>
      -- a block that another one follows is whole lines
      have hblock : lineLength ∣ block.length := h block List.mem_cons_self
      rw [feed_append _ hblock]

/--
A dump is the same text in whatever blocks its bytes are fed, as long as all blocks but the last one are whole lines.
After any number of blocks it has written and remembers just what it would have if their bytes had come at once, and
its address has not run over.
-/
theorem streamed_dump_is_whole_dump {address : Nat} {blocks : List Bytes} (hlines : WholeLines blocks)
    (haddress : address + blocks.flatten.length < 2 ^ 64)
    : String.join (stream address blocks) = dump address blocks.flatten
        ∧
      ∀ count,
        let before := (blocks.take count).flatten
        let (d, texts) := (start address).feedAll (blocks.take count)
        (d, String.join texts) = (start address).feed before
          ∧
        d.address = address + before.length
          ∧
        d.address < 2 ^ 64 := by
  constructor
  . have hfeed := feedAll_eq_feed (start address) hlines
    unfold stream dump
    rw [← hfeed]
    simp
  . intro count
    have hfeed := feedAll_eq_feed (start address) (hlines.take count)
    have hd : ((start address).feedAll (blocks.take count)).1.address
        = address + (blocks.take count).flatten.length := by
      rw [congrArg Prod.fst hfeed, address_feed]
      rfl
    have hlength := congrArg (fun all => all.flatten.length) (List.take_append_drop count blocks)
    simp only [List.flatten_append, List.length_append] at hlength
    refine ⟨hfeed, hd, ?_⟩
    rw [hd]
    omega

/--
Equal lines are marked once although they come in different blocks, one of which is empty.
-/
theorem zeros_in_blocks_are_marked_once
    : let blocks := [Bytes.zeros 16, Bytes.zeros 32, [], Bytes.zeros 16 ++ [1, 2]]
      WholeLines blocks
        ∧
      0 + blocks.flatten.length < 2 ^ 64
        ∧
      stream 0 blocks = [
        "00000000  00 00 00 00 00 00 00 00  00 00 00 00 00 00 00 00  |................|\n",
        "*\n",
        "",
        "00000040  01 02                                            |..|\n",
        "00000042\n"
      ]
        ∧
      String.join (stream 0 blocks) = dump 0 (Bytes.zeros 64 ++ [1, 2]) := by
  intro blocks
  have hlines : WholeLines blocks := by
    unfold WholeLines
    decide
  have haddress : 0 + blocks.flatten.length < 2 ^ 64 := by decide
  exact ⟨hlines, haddress, by decide +kernel, (streamed_dump_is_whole_dump hlines haddress).1⟩

end Hexdump
end PcieSwitch
