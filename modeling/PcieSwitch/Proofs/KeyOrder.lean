import Mathlib.Data.List.Dedup
import Mathlib.Data.List.Lex
import Mathlib.Order.Lattice

/-!
This module contains listings in the order of a key. Sorting a list by a key that its elements are compared by keeps
all of them, and those with one key in the order that they were in. A list in the order of a key changes once to each
of its values.
-/

namespace PcieSwitch

theorem cons_le_cons_iff {a b : Nat} {as bs : List Nat} : a :: as ≤ b :: bs ↔ a < b ∨ a = b ∧ as ≤ bs := by
  rw [← not_lt, ← not_lt, List.cons_lt_cons_iff]
  rcases Nat.lt_trichotomy a b with hlt | rfl | hgt
  . simp [hlt, Nat.lt_asymm hlt, hlt.ne']
  . simp
  . simp [hgt, Nat.lt_asymm hgt, hgt.ne']

section

variable {κ : Type} [LinearOrder κ] {key : α → κ} {le : α → α → Bool} (hle : ∀ a b, le a b = true ↔ key a ≤ key b)
include hle

theorem le_trans_of_key (a b c : α) (hab : le a b = true) (hbc : le b c = true) : le a c = true := by
  rw [hle] at *
  exact le_trans hab hbc

theorem le_total_of_key (a b : α) : (le a b || le b a) = true := by
  rw [Bool.or_eq_true, hle, hle]
  apply le_total

theorem pairwise_mergeSort_of_key (xs : List α) : (xs.mergeSort le).Pairwise fun a b => key a ≤ key b := by
  have hsorted := List.pairwise_mergeSort (le_trans_of_key hle) (le_total_of_key hle) xs
  apply hsorted.imp
  intro a b
  exact (hle a b).mp

theorem filter_mergeSort_of_key (xs : List α) (k : κ) [DecidablePred fun a => key a = k]
    : (xs.mergeSort le).filter (key · = k) = xs.filter (key · = k) := by
  have hsame : (xs.filter (key · = k)).Pairwise fun a b => le a b = true := by
    rw [List.pairwise_iff_forall_sublist]
    intro a b hab
    have hkey : ∀ c ∈ [a, b], key c = k := fun c hc => by simpa using (List.mem_filter.mp (hab.subset hc)).2
    rw [hle, hkey a (by simp), hkey b (by simp)]
  -- those with one key are in the order of the listing already, so the listing has them as they are
  have hsublist := List.sublist_mergeSort (le_trans_of_key hle) (le_total_of_key hle) hsame List.filter_sublist
  have hfiltered := hsublist.filter (key · = k)
  rw [List.filter_filter] at hfiltered
  simp only [Bool.and_self] at hfiltered
  exact (hfiltered.eq_of_length ((List.mergeSort_perm xs le).filter _).length_eq.symm).symm

end

def changes [DecidableEq α] : Option α → List α → List α
  | _, [] => []
  | last, x :: xs => if last = some x then changes last xs else x :: changes (some x) xs

section

variable {κ : Type} [PartialOrder κ] [DecidableEq α] {key : α → κ}

theorem cons_changes_eq_dedup (hkey : Function.Injective key) {x : α} {xs : List α}
    (hsorted : (x :: xs).Pairwise fun a b => key a ≤ key b) : x :: changes (some x) xs = (x :: xs).dedup := by
  induction xs generalizing x with
  | nil => rfl
  | cons y xs ih =>
    obtain ⟨hx, hrest⟩ := List.pairwise_cons.mp hsorted
    rw [changes]
    by_cases hsame : x = y
    . subst hsame
      rw [if_pos rfl, List.dedup_cons_of_mem List.mem_cons_self, ih hrest]
    . -- whatever comes after another value is not less than that value, so the first one does not come back
      have hnew : x ∉ y :: xs := by
        rintro (_ | ⟨_, hlater⟩)
        . exact hsame rfl
        . exact hsame (hkey (le_antisymm (hx y List.mem_cons_self) ((List.pairwise_cons.mp hrest).1 x hlater)))
      rw [if_neg (fun h => hsame (Option.some.inj h)), List.dedup_cons_of_notMem hnew, ih hrest]

theorem changes_eq_dedup (hkey : Function.Injective key) {xs : List α}
    (hsorted : xs.Pairwise fun a b => key a ≤ key b) : changes none xs = xs.dedup := by
  cases xs with
  | nil => rfl
  | cons x xs => exact cons_changes_eq_dedup hkey hsorted

end

end PcieSwitch
