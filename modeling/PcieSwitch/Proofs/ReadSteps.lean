import PcieSwitch.Proofs.Layout

/-!
This module contains readings that are spelled out: which words are read one after the other, and which bytes are passed
over between them. Fields are read back from their layout by the steps that match them, and zeros behind the data make no
difference to any reading.
-/

namespace PcieSwitch

inductive ReadStep where
  | u8
  | u16
  | u32
  | u64
  | skip (count : Nat)
  deriving DecidableEq, Repr

namespace ReadStep

def width : ReadStep → Nat
  | .u8 => 1
  | .u16 => 2
  | .u32 => 4
  | .u64 => 8
  | .skip count => count

def widthOf (steps : List ReadStep) : Nat :=
  (steps.map width).sum

@[simp]
theorem widthOf_nil : widthOf [] = 0 := by
  rfl

@[simp]
theorem widthOf_cons (step : ReadStep) (steps : List ReadStep) : widthOf (step :: steps) = step.width + widthOf steps := by
  rfl

theorem widthOf_append (steps others : List ReadStep) : widthOf (steps ++ others) = widthOf steps + widthOf others := by
  unfold widthOf
  rw [List.map_append, List.sum_append]

def take : ReadStep → Read (Option Field)
  | .u8 => do return some (.u8 (← Read.u8))
  | .u16 => do return some (.u16 (← Read.u16))
  | .u32 => do return some (.u32 (← Read.u32))
  | .u64 => do return some (.u64 (← Read.u64))
  | .skip count => do
    Read.skip count
    return none

def takeAll : List ReadStep → Read (List (Option Field × Nat))
  | [] => return []
  | step :: steps => do
    let found ← step.take
    let position := (← get).position
    let others ← takeAll steps
    return (found, position) :: others

def found (step : ReadStep) (data : Bytes) : Option Field :=
  match step with
  | .u8 => some (.u8 (UInt8.ofNat data.toNat))
  | .u16 => some (.u16 (UInt16.ofNat data.toNat))
  | .u32 => some (.u32 (UInt32.ofNat data.toNat))
  | .u64 => some (.u64 (UInt64.ofNat data.toNat))
  | .skip _ => none

theorem takes_take (step : ReadStep) : step.take.Takes step.width step.found := by
  cases step with
  | u8 => exact Read.takes_map Read.takes_u8 fun value => some (Field.u8 value)
  | u16 => exact Read.takes_map Read.takes_u16 fun value => some (Field.u16 value)
  | u32 => exact Read.takes_map Read.takes_u32 fun value => some (Field.u32 value)
  | u64 => exact Read.takes_map Read.takes_u64 fun value => some (Field.u64 value)
  | skip count => exact Read.takes_map (Read.takes_skip count) fun _ => none

theorem found_fit (bs : Bytes) (n : Nat) (step : ReadStep) : step.found (bs.fit n) = step.found (bs.take n) := by
  cases step <;> simp only [found, Bytes.toNat_fit]

theorem takeAll_cons (step : ReadStep) (steps : List ReadStep) (cursor : Cursor)
    : let next : Cursor := ⟨cursor.rest.drop step.width, cursor.position + step.width⟩
      takeAll (step :: steps) cursor
        =
      ((step.found (cursor.rest.fit step.width), next.position) :: (takeAll steps next).1, (takeAll steps next).2) := by
  have hrun : takeAll (step :: steps) cursor =
      (((step.take cursor).1, (step.take cursor).2.position) :: (takeAll steps (step.take cursor).2).1,
        (takeAll steps (step.take cursor).2).2) := rfl
  rw [hrun, takes_take]

theorem position_takeAll (steps : List ReadStep) (cursor : Cursor)
    : (takeAll steps cursor).2.position = cursor.position + widthOf steps := by
  induction steps generalizing cursor with
  | nil => rfl
  | cons step steps ih => rw [takeAll_cons, ih, widthOf_cons, Nat.add_assoc]

theorem length_takeAll (steps : List ReadStep) (cursor : Cursor) : (takeAll steps cursor).1.length = steps.length := by
  induction steps generalizing cursor with
  | nil => rfl
  | cons step steps ih => rw [takeAll_cons, List.length_cons, ih, List.length_cons]

theorem getElem?_takeAll {steps : List ReadStep} {i : Nat} {step : ReadStep} (h : steps[i]? = some step) (cursor : Cursor)
    : (takeAll steps cursor).1[i]?
        =
      some (step.found ((cursor.rest.drop (widthOf (steps.take i))).take step.width),
        cursor.position + widthOf (steps.take i) + step.width) := by
  induction steps generalizing cursor i with
  | nil => cases h
  | cons first steps ih =>
    rw [takeAll_cons]
    cases i with
    | zero =>
      cases h
      rw [List.getElem?_cons_zero, found_fit]
      rfl
    | succ i =>
      rw [List.getElem?_cons_succ] at h
      rw [List.getElem?_cons_succ, ih h, List.take_succ_cons, widthOf_cons, List.drop_drop, Nat.add_assoc cursor.position]

end ReadStep

namespace Field

def step : Field → ReadStep
  | .u8 _ => .u8
  | .u16 _ => .u16
  | .u32 _ => .u32
  | .u64 _ => .u64
  | .zeros count => .skip count
  | .bytes data => .skip data.length

def word? : Field → Option Field
  | .u8 value => some (.u8 value)
  | .u16 value => some (.u16 value)
  | .u32 value => some (.u32 value)
  | .u64 value => some (.u64 value)
  | .zeros _ | .bytes _ => none

theorem width_step (field : Field) : field.step.width = field.width := by
  cases field <;> rfl

theorem found_encode (field : Field) : field.step.found field.encode = field.word? := by
  cases field with
  | u8 value =>
    unfold encode step ReadStep.found word?
    rw [Bytes.toNat_ofNat value.toNat_lt, UInt8.ofNat_toNat]
  | u16 value =>
    unfold encode step ReadStep.found word?
    rw [Bytes.toNat_ofNat value.toNat_lt, UInt16.ofNat_toNat]
  | u32 value =>
    unfold encode step ReadStep.found word?
    rw [Bytes.toNat_ofNat value.toNat_lt, UInt32.ofNat_toNat]
  | u64 value =>
    unfold encode step ReadStep.found word?
    rw [Bytes.toNat_ofNat value.toNat_lt, UInt64.ofNat_toNat]
  | zeros | bytes => rfl

theorem widthOf_steps (fields : List Field)
    : ReadStep.widthOf (fields.map step) = (Bytes.ofFields fields).length := by
  unfold ReadStep.widthOf
  rw [Bytes.length_ofFields, List.map_map]
  congr 1
  apply List.map_congr_left
  intro field _
  exact field.width_step

theorem found_takeAll_steps (fields : List Field) (position : Nat)
    : (ReadStep.takeAll (fields.map step) ⟨Bytes.ofFields fields, position⟩).1.map Prod.fst = fields.map word? := by
  induction fields generalizing position with
  | nil => rfl
  | cons field fields ih =>
    have hwidth : field.encode.length = field.step.width := by rw [length_encode, width_step]
    have hfit : Bytes.fit (field.encode ++ Bytes.ofFields fields) field.step.width = field.encode := by
      rw [Bytes.fit_eq_take (by simp [← hwidth]), List.take_left' hwidth]
    rw [List.map_cons, ReadStep.takeAll_cons, Bytes.ofFields_cons]
    dsimp only
    rw [List.drop_left' hwidth, hfit, found_encode, List.map_cons, ih, List.map_cons]

end Field

theorem Bytes.fit_append_zeros (bs : Bytes) (m n : Nat) : Bytes.fit (bs ++ zeros m) n = bs.fit n := by
  induction n generalizing bs m with
  | zero => rfl
  | succ n ih =>
    cases bs with
    | nil =>
      cases m with
      | zero => rfl
      | succ m =>
        change 0 :: Bytes.fit ([] ++ zeros m) n = 0 :: Bytes.fit [] n
        rw [ih]
    | cons b bs => rw [List.cons_append, fit, fit, ih]

structure Cursor.Alike (cursor other : Cursor) : Prop where
  position : cursor.position = other.position
  fit : ∀ n, cursor.rest.fit n = other.rest.fit n

namespace Cursor

theorem alike_append_zeros (data : Bytes) (n : Nat) : (start (data ++ Bytes.zeros n)).Alike (start data) := by
  constructor
  . rfl
  . apply data.fit_append_zeros

theorem Alike.drop {cursor other : Cursor} (h : cursor.Alike other) (width : Nat)
    : Alike ⟨cursor.rest.drop width, cursor.position + width⟩ ⟨other.rest.drop width, other.position + width⟩ := by
  constructor
  . exact congrArg (· + width) h.position
  . intro n
    dsimp only
    rw [← Bytes.drop_fit, ← Bytes.drop_fit, h.fit]

theorem Alike.takeAll {cursor other : Cursor} (h : cursor.Alike other) (steps : List ReadStep)
    : (ReadStep.takeAll steps cursor).1 = (ReadStep.takeAll steps other).1 := by
  induction steps generalizing cursor other with
  | nil => rfl
  | cons step steps ih =>
    have hnext := h.drop step.width
    rw [ReadStep.takeAll_cons, ReadStep.takeAll_cons]
    dsimp only
    rw [ih hnext, h.fit, h.position]

end Cursor

/--
A layout is as long as its fields together. The steps that match the fields find every word of it, and end where it does.
Whichever steps are taken through some data, they find the same at the same positions if zeros follow the data: each step
finds the number that its bytes spell, as far as they are there, and then stands behind them. Positions are sums of widths,
so they are machine words if all widths together are one.
-/
theorem layouts_are_read_back
    : (∀ fields : List Field,
        let data := Bytes.ofFields fields
        let reading := ReadStep.takeAll (fields.map Field.step) (Cursor.start data)
        data.length = (fields.map Field.width).sum
          ∧
        reading.1.map Prod.fst = fields.map Field.word?
          ∧
        reading.2.position = data.length)
        ∧
      ∀ (data : Bytes) (steps : List ReadStep) (n : Nat),
        let reading := ReadStep.takeAll steps (Cursor.start data)
        let extended := ReadStep.takeAll steps (Cursor.start (data ++ Bytes.zeros n))
        extended.1 = reading.1
          ∧
        extended.2.position = reading.2.position
          ∧
        reading.1.length = steps.length
          ∧
        (∀ i step, steps[i]? = some step →
          let offset := ReadStep.widthOf (steps.take i)
          reading.1[i]? = some (step.found ((data.drop offset).take step.width), offset + step.width))
          ∧
        reading.2.position = ReadStep.widthOf steps := by
  constructor
  . intro fields
    refine ⟨Bytes.length_ofFields fields, Field.found_takeAll_steps fields 0, ?_⟩
    rw [ReadStep.position_takeAll, Field.widthOf_steps]
    apply Nat.zero_add
  . intro data steps n
    have hposition : ∀ data, (ReadStep.takeAll steps (Cursor.start data)).2.position = ReadStep.widthOf steps := by
      intro data
      rw [ReadStep.position_takeAll]
      apply Nat.zero_add
    refine ⟨(Cursor.alike_append_zeros data n).takeAll steps, ?_, ReadStep.length_takeAll steps _, ?_, hposition data⟩
    . exact (hposition _).trans (hposition data).symm
    . intro i step h offset
      have hfound := ReadStep.getElem?_takeAll h (Cursor.start data)
      unfold Cursor.start at hfound
      rw [Nat.zero_add] at hfound
      exact hfound

example
    : ReadStep.takeAll [.u16, .skip 1, .u32, .u8] (Cursor.start [0x34, 0x12, 0x78, 0x56])
        =
      ([(some (.u16 0x1234), 2), (none, 3), (some (.u32 0x56), 7), (some (.u8 0), 8)], ⟨[], 8⟩) := by
  rfl

end PcieSwitch
