import PcieSwitch.Proofs.Bytes

/-!
This module contains the layouts that read actions expect. An action that takes a width off the front of
a reply moves by exactly that width, and what it reads depends on those bytes only.
-/

namespace PcieSwitch
namespace Read

def Takes (action : Read α) (width : Nat) (value : Bytes → α) : Prop :=
  ∀ cursor : Cursor,
    action cursor = (value (cursor.rest.fit width), ⟨cursor.rest.drop width, cursor.position + width⟩)

theorem takes_bytes (n : Nat) : (bytes n).Takes n id := by
  intro cursor
  rfl

theorem takes_pure (value : α) : (pure value : Read α).Takes 0 fun _ => value := by
  intro cursor
  rfl

theorem takes_bind {action : Read α} {f : α → Read β} {m n : Nat} {value : Bytes → α}
    {next : α → Bytes → β} (haction : action.Takes m value) (hf : ∀ a, (f a).Takes n (next a))
    : (action >>= f).Takes (m + n) fun data => next (value (data.take m)) (data.drop m) := by
  intro cursor
  have hrun : (action >>= f) cursor = f (action cursor).1 (action cursor).2 := rfl
  rw [hrun, haction, hf]
  dsimp only
  rw [Bytes.take_fit _ (Nat.le_add_right m n), Bytes.drop_fit, List.drop_drop, Nat.add_assoc]

theorem takes_map {action : Read α} {n : Nat} {value : Bytes → α} (h : action.Takes n value)
    (f : α → β) : (action >>= fun a => pure (f a)).Takes n fun data => f (value data) := by
  intro cursor
  have hrun : (action >>= fun a => pure (f a)) cursor = (f (action cursor).1, (action cursor).2) := rfl
  rw [hrun, h]

theorem takes_congr {action : Read α} {width : Nat} {value other : Bytes → α}
    (h : action.Takes width value) (heq : ∀ data, data.length = width → value data = other data)
    : action.Takes width other := by
  intro cursor
  rw [h, heq _ (Bytes.length_fit _ _)]

theorem takes_ite (c : Prop) [Decidable c] {action other : Read α} {width : Nat} {value otherwise : Bytes → α}
    (h : action.Takes width value) (hother : other.Takes width otherwise)
    : (if c then action else other).Takes width fun data => if c then value data else otherwise data := by
  split
  . exact h
  . exact hother

theorem takes_skip (n : Nat) : (skip n).Takes n fun _ => () := by
  intro cursor
  rfl

theorem takes_u8 : u8.Takes 1 fun data => UInt8.ofNat data.toNat := by
  apply takes_map (takes_bytes 1)

theorem takes_flag : flag.Takes 1 fun data => UInt8.ofNat data.toNat != 0 := by
  apply takes_map takes_u8

theorem takes_u16 : u16.Takes 2 fun data => UInt16.ofNat data.toNat := by
  apply takes_map (takes_bytes 2)

theorem takes_u32 : u32.Takes 4 fun data => UInt32.ofNat data.toNat := by
  apply takes_map (takes_bytes 4)

theorem takes_u64 : u64.Takes 8 fun data => UInt64.ofNat data.toNat := by
  apply takes_map (takes_bytes 8)

def entry (width : Nat) (data : Bytes) (i : Nat) : Bytes :=
  (data.drop (width * i)).take width

theorem entry_fit (data : Bytes) {width n i : Nat} (h : width * (i + 1) ≤ n)
    : entry width (data.fit n) i = Bytes.fit (data.drop (width * i)) width := by
  obtain ⟨rest, rfl⟩ := Nat.exists_eq_add_of_le h
  unfold entry
  rw [Nat.mul_add_one, Nat.add_assoc, Bytes.drop_fit, Bytes.take_fit _ (Nat.le_add_right _ _)]

theorem entry_append {data : Bytes} {width i : Nat} (h : width * (i + 1) ≤ data.length) (more : Bytes)
    : entry width (data ++ more) i = entry width data i := by
  rw [Nat.mul_add_one] at h
  unfold entry
  rw [List.drop_append_of_le_length (by omega), List.take_append_of_le_length (by rw [List.length_drop]; omega)]

theorem takes_times {item : Read α} {width : Nat} {value : Bytes → α} (h : item.Takes width value)
    (n : Nat)
    : (times n item).Takes (width * n) fun data =>
        (List.range n).map fun i => value (entry width data i) := by
  induction n with
  | zero => apply takes_pure
  | succ n ih =>
    intro cursor
    unfold times
    rw [takes_bind h fun a => takes_map ih (a :: ·)]
    dsimp only
    rw [Nat.mul_add_one, Nat.add_comm width]
    congr 1
    rw [List.range_succ_eq_map, List.map_cons, List.map_map]
    congr 1
    apply List.map_congr_left
    intro i _
    unfold entry
    rw [List.drop_drop, Function.comp_apply, Nat.mul_add_one, Nat.add_comm width]

theorem length_times (item : Read α) (n : Nat) (cursor : Cursor)
    : (times n item cursor).1.length = n := by
  induction n generalizing cursor with
  | zero => rfl
  | succ n ih =>
    change (times n item _).1.length + 1 = n + 1
    rw [ih]

theorem length_flatMap_of_width {encode : β → Bytes} {width : Nat}
    (hwidth : ∀ value, (encode value).length = width) (values : List β)
    : (values.flatMap encode).length = width * values.length := by
  induction values with
  | nil => rfl
  | cons value rest ih =>
    rw [List.flatMap_cons, List.length_append, hwidth, ih, List.length_cons, Nat.mul_add_one, Nat.add_comm]

theorem map_entry_flatMap {encode : β → Bytes} {item : Bytes → β} {width : Nat}
    (hwidth : ∀ value, (encode value).length = width) (hitem : ∀ value, item (encode value) = value)
    (values : List β)
    : (List.range values.length).map (fun i => item (entry width (values.flatMap encode) i)) = values := by
  induction values with
  | nil => rfl
  | cons value rest ih =>
    rw [List.length_cons, List.range_succ_eq_map, List.map_cons, List.map_map, List.flatMap_cons]
    congr 1
    . unfold entry
      rw [Nat.mul_zero, List.drop_zero, List.take_left' (hwidth value), hitem]
    . apply Eq.trans _ ih
      apply List.map_congr_left
      intro i _
      -- the entries of the rest lie one width further on
      unfold entry
      rw [Function.comp_apply, Nat.mul_add_one, Nat.add_comm, ← List.drop_drop, List.drop_left' (hwidth value)]

theorem read_of_takes {action : Read α} {width : Nat} {value : Bytes → α} (h : action.Takes width value)
    {data : Bytes} (hdata : data.length = width) : data.read action = value data := by
  unfold Bytes.read
  rw [h]
  dsimp only [Cursor.start]
  rw [Bytes.fit_eq_self hdata]

theorem takes_read_of_takes {action : Read α} {width : Nat} {value : Bytes → α} (h : action.Takes width value)
    : action.Takes width fun data => data.read action := by
  apply takes_congr h
  intro data hdata
  rw [read_of_takes h hdata]

end Read
end PcieSwitch
