import PcieSwitch.Pages

/-!
This module contains the theory of pages: which elements each page holds, and that the pages together are
the list that was cut.
-/

namespace PcieSwitch

theorem pages_nil (size : Nat) : pages size ([] : List α) = [] := by
  rw [pages]

theorem pages_cons {size : Nat} (hsize : 0 < size) {xs : List α} (hxs : xs ≠ [])
    : pages size xs = xs.take size :: pages size (xs.drop size) := by
  obtain ⟨n, rfl⟩ := Nat.exists_eq_add_one_of_ne_zero (Nat.ne_of_gt hsize)
  cases xs with
  | nil => contradiction
  | cons x xs => rw [pages, Nat.add_sub_cancel, List.take_succ_cons, List.drop_succ_cons]

theorem pages_of_length_le {size : Nat} (hsize : 0 < size) {xs : List α} (hxs : xs ≠ [])
    (h : xs.length ≤ size) : pages size xs = [xs] := by
  rw [pages_cons hsize hxs, List.take_of_length_le h, List.drop_of_length_le h, pages_nil]

theorem spans_zero (size offset : Nat) : spans size offset 0 = [] := by
  rw [spans, if_pos rfl]

theorem spans_cons {size length : Nat} (hsize : 0 < size) (hlength : 0 < length) (offset : Nat)
    : spans size offset length
        =
      (offset, min size length) :: spans size (offset + min size length) (length - min size length) := by
  rw [spans, if_neg (Nat.ne_of_gt hlength), if_neg (Nat.ne_of_gt hsize)]

theorem getElem?_pages {size : Nat} (hsize : 0 < size) (xs : List α) (i : Nat)
    : (pages size xs)[i]?
        =
      if size * i < xs.length then some ((xs.drop (size * i)).take size) else none := by
  induction i generalizing xs with
  | zero =>
    cases xs with
    | nil => rw [pages_nil]; rfl
    | cons x xs =>
      rw [pages_cons hsize (List.cons_ne_nil x xs), List.getElem?_cons_zero]
      simp
  | succ i ih =>
    cases xs with
    | nil => rw [pages_nil]; rfl
    | cons x xs =>
      rw [pages_cons hsize (List.cons_ne_nil x xs), List.getElem?_cons_succ, ih]
      rw [List.length_drop, List.drop_drop, Nat.mul_add_one, Nat.add_comm size]
      split
      . rw [if_pos (by omega)]
      . rw [if_neg (by omega)]

theorem flatten_take_pages {size : Nat} (hsize : 0 < size) (xs : List α) (k : Nat)
    : ((pages size xs).take k).flatten = xs.take (size * k) := by
  induction k generalizing xs with
  | zero => rfl
  | succ k ih =>
    cases xs with
    | nil => rw [pages_nil, List.take_nil, List.take_nil, List.flatten_nil]
    | cons x xs =>
      rw [pages_cons hsize (List.cons_ne_nil x xs), List.take_succ_cons, List.flatten_cons, ih]
      rw [← List.take_add, Nat.mul_add_one, Nat.add_comm]

theorem flatten_pages {size : Nat} (hsize : 0 < size) (xs : List α)
    : (pages size xs).flatten = xs := by
  have h := flatten_take_pages hsize xs (pages size xs).length
  rw [List.take_length] at h
  rw [h]
  apply List.take_of_length_le
  have hnone : (pages size xs)[(pages size xs).length]? = none :=
    List.getElem?_eq_none (Nat.le_refl _)
  rw [getElem?_pages hsize] at hnone
  split at hnone
  . contradiction
  . omega

theorem getElem_pages {size : Nat} (hsize : 0 < size) {xs : List α} {i : Nat}
    (hi : i < (pages size xs).length)
    : size * i < xs.length ∧ (pages size xs)[i] = (xs.drop (size * i)).take size := by
  have h := getElem?_pages hsize xs i
  rw [List.getElem?_eq_getElem hi] at h
  split at h
  . next hlt => exact ⟨hlt, Option.some.inj h⟩
  . contradiction

theorem ne_nil_of_mem_pages {size : Nat} (hsize : 0 < size) {xs page : List α}
    (h : page ∈ pages size xs) : page ≠ [] := by
  obtain ⟨i, hi, rfl⟩ := List.getElem_of_mem h
  obtain ⟨hlt, hpage⟩ := getElem_pages hsize hi
  rw [hpage]
  apply List.ne_nil_of_length_pos
  rw [List.length_take, List.length_drop]
  omega

theorem length_le_of_mem_pages {size : Nat} (hsize : 0 < size) {xs page : List α}
    (h : page ∈ pages size xs) : page.length ≤ size := by
  obtain ⟨i, hi, rfl⟩ := List.getElem_of_mem h
  rw [(getElem_pages hsize hi).2, List.length_take]
  omega

theorem mem_of_mem_pages {size : Nat} (hsize : 0 < size) {xs page : List α} {x : α}
    (h : page ∈ pages size xs) (hx : x ∈ page) : x ∈ xs := by
  rw [← flatten_pages hsize xs]
  exact List.mem_flatten_of_mem h hx

theorem pages_map {size : Nat} (hsize : 0 < size) (f : α → β) (xs : List α)
    : pages size (xs.map f) = (pages size xs).map (List.map f) := by
  apply List.ext_getElem?
  intro i
  rw [List.getElem?_map, getElem?_pages hsize, getElem?_pages hsize, List.length_map]
  split
  . rw [← List.map_drop, ← List.map_take]
    rfl
  . rfl

theorem pages_flatten {width : Nat} (hwidth : 0 < width) {entries : List (List α)}
    (h : ∀ entry ∈ entries, entry.length = width) : pages width entries.flatten = entries := by
  induction entries with
  | nil => apply pages_nil
  | cons entry entries ih =>
    have hentry : entry.length = width := h entry List.mem_cons_self
    have hne : (entry :: entries).flatten ≠ [] := by
      apply List.ne_nil_of_length_pos
      rw [List.flatten_cons, List.length_append]
      omega
    rw [pages_cons hwidth hne, List.flatten_cons, List.take_left' hentry, List.drop_left' hentry]
    rw [ih fun other hother => h other (List.mem_cons_of_mem _ hother)]

theorem pages_append {size : Nat} (hsize : 0 < size) {xs : List α} (h : size ∣ xs.length) (ys : List α)
    : pages size (xs ++ ys) = pages size xs ++ pages size ys := by
  obtain ⟨k, hk⟩ := h
  induction k generalizing xs with
  | zero =>
    rw [List.length_eq_zero_iff.mp hk, pages_nil]
    rfl
  | succ k ih =>
    have hlength : size ≤ xs.length := by
      rw [hk, Nat.mul_add_one]
      omega
    have hxs : xs ≠ [] := List.ne_nil_of_length_pos (by omega)
    have hrest : (xs.drop size).length = size * k := by
      rw [List.length_drop, hk, Nat.mul_add_one]
      omega
    rw [pages_cons hsize hxs, pages_cons hsize (List.append_ne_nil_of_left_ne_nil hxs ys)]
    rw [List.take_append_of_le_length hlength, List.drop_append_of_le_length hlength, ih hrest]
    rfl

theorem getElem?_flatten_zipWith_pages {size : Nat} (hsize : 0 < size) (xs : List α)
    (replies : List γ) (hreplies : replies.length = (pages size xs).length)
    {decode : List α → γ → List β} (hdecode : ∀ page reply, (decode page reply).length = page.length)
    {i : Nat} (hi : i < xs.length)
    : ∃ page reply,
        (pages size xs)[i / size]? = some page
          ∧
        replies[i / size]? = some reply
          ∧
        i % size < page.length
          ∧
        (List.zipWith decode (pages size xs) replies).flatten[i]? = (decode page reply)[i % size]? := by
  have hxs : xs ≠ [] := List.ne_nil_of_length_pos (by omega)
  rw [pages_cons hsize hxs] at hreplies ⊢
  cases replies with
  | nil => contradiction
  | cons reply replies =>
    simp only [List.length_cons, Nat.add_right_cancel_iff] at hreplies
    rw [List.zipWith_cons_cons, List.flatten_cons]
    by_cases hfirst : i < size
    . rw [Nat.div_eq_of_lt hfirst, Nat.mod_eq_of_lt hfirst]
      have hlength : i < (xs.take size).length := by
        rw [List.length_take]
        omega
      refine ⟨xs.take size, reply, rfl, rfl, hlength, ?_⟩
      rw [List.getElem?_append_left (by rw [hdecode]; exact hlength)]
    . have hlength : (xs.take size).length = size := by
        rw [List.length_take]
        omega
      have hrest : i - size < (xs.drop size).length := by
        rw [List.length_drop]
        omega
      -- the element is `size` places further to the front in what is left
      have hdiv : i / size = (i - size) / size + 1 := Nat.div_eq_sub_div hsize (by omega)
      have hmod : i % size = (i - size) % size := Nat.mod_eq_sub_mod (by omega)
      obtain ⟨page, other, hpage, hother, hlt, hvalue⟩ :=
        getElem?_flatten_zipWith_pages hsize (xs.drop size) replies hreplies hdecode hrest
      rw [hdiv, hmod, List.getElem?_cons_succ, List.getElem?_cons_succ]
      refine ⟨page, other, hpage, hother, hlt, ?_⟩
      rw [List.getElem?_append_right (by rw [hdecode, hlength]; omega), hdecode, hlength, hvalue]
termination_by xs.length

theorem length_flatten_zipWith_pages {size : Nat} (hsize : 0 < size) (xs : List α)
    (replies : List γ) (hreplies : replies.length = (pages size xs).length)
    {decode : List α → γ → List β} (hdecode : ∀ page reply, (decode page reply).length = page.length)
    : (List.zipWith decode (pages size xs) replies).flatten.length = xs.length := by
  have hlengths : (List.zipWith decode (pages size xs) replies).map List.length
      = (pages size xs).map List.length := by
    apply List.ext_getElem
    . simp only [List.length_map, List.length_zipWith]
      omega
    . intro i h₁ h₂
      simp only [List.getElem_map, List.getElem_zipWith, hdecode]
  rw [List.length_flatten, hlengths, ← List.length_flatten, flatten_pages hsize]

end PcieSwitch
