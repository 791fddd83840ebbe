import Mathlib.Data.List.DropRight
import PcieSwitch.Proofs.WrittenText
import PcieSwitch.Text.Blank

/-!
This module contains what cutting a text leaves: the pieces between its separators, what stands around the first or the
last one of them, and the text without the blanks at its ends. Each cut is the only one of its kind.
-/

namespace PcieSwitch
namespace Text

section

variable [DecidableEq α]

theorem after?_eq_some_iff {word cs rest : List α} : after? word cs = some rest ↔ cs = word ++ rest := by
  fun_induction after? word cs with
  | case1 cs => exact Option.some_inj
  | case2 w ws cs ih => rw [ih, List.cons_append, List.cons_inj_right]
  | case3 w ws c cs hne =>
    refine ⟨nofun, ?_⟩
    intro h
    exact absurd (List.cons.inj h).1.symm hne
  | case4 => exact ⟨nofun, nofun⟩

theorem splitAtFirst?_eq_none_iff {x : α} {xs : List α} : splitAtFirst? x xs = none ↔ x ∉ xs := by
  induction xs with
  | nil => exact ⟨fun _ => List.not_mem_nil, fun _ => rfl⟩
  | cons y ys ih =>
    unfold splitAtFirst?
    split
    . next heq => exact ⟨nofun, fun h => absurd (heq ▸ List.mem_cons_self) h⟩
    . next hne =>
      rw [Option.map_eq_none_iff, ih, List.mem_cons, not_or]
      exact (and_iff_right (Ne.symm hne)).symm

theorem splitAtFirst?_append {x : α} {before : List α} (h : x ∉ before) (after : List α)
    : splitAtFirst? x (before ++ x :: after) = some (before, after) := by
  induction before with
  | nil => exact if_pos rfl
  | cons y before ih =>
    obtain ⟨hne, hrest⟩ := List.ne_and_not_mem_of_not_mem_cons h
    rw [List.cons_append, splitAtFirst?, if_neg hne.symm, ih hrest]
    rfl

theorem splitAtFirst?_eq_some_iff {x : α} {xs before after : List α}
    : splitAtFirst? x xs = some (before, after) ↔ xs = before ++ x :: after ∧ x ∉ before := by
  constructor
  . intro h
    induction xs generalizing before with
    | nil => cases h
    | cons y ys ih =>
      unfold splitAtFirst? at h
      split at h
      . next heq =>
        cases h
        exact ⟨by rw [heq, List.nil_append], List.not_mem_nil⟩
      . next hne =>
        obtain ⟨⟨rest, _⟩, hrest, heq⟩ := Option.map_eq_some_iff.mp h
        cases heq
        obtain ⟨rfl, hmem⟩ := ih hrest
        exact ⟨rfl, List.not_mem_cons_of_ne_of_not_mem (Ne.symm hne) hmem⟩
  . rintro ⟨rfl, h⟩
    exact splitAtFirst?_append h after

theorem splitAtLast?_eq_none_iff {x : α} {xs : List α} : splitAtLast? x xs = none ↔ x ∉ xs := by
  induction xs with
  | nil => exact ⟨fun _ => List.not_mem_nil, fun _ => rfl⟩
  | cons y ys ih =>
    rw [splitAtLast?, List.mem_cons, not_or, ← ih]
    split
    . next hrest => simp [hrest]
    . next hrest =>
      split
      . next heq => simp [heq]
      . next hne => simp [hrest, Ne.symm hne]

theorem splitAtLast?_append (before : List α) {x : α} {after : List α} (h : x ∉ after)
    : splitAtLast? x (before ++ x :: after) = some (before, after) := by
  induction before with
  | nil =>
    rw [List.nil_append, splitAtLast?, splitAtLast?_eq_none_iff.mpr h]
    exact if_pos rfl
  | cons y before ih => rw [List.cons_append, splitAtLast?, ih]

theorem splitAtLast?_eq_some_iff {x : α} {xs before after : List α}
    : splitAtLast? x xs = some (before, after) ↔ xs = before ++ x :: after ∧ x ∉ after := by
  constructor
  . intro h
    induction xs generalizing before with
    | nil => cases h
    | cons y ys ih =>
      unfold splitAtLast? at h
      split at h
      . next hrest =>
        cases h
        obtain ⟨rfl, hmem⟩ := ih hrest
        exact ⟨rfl, hmem⟩
      . next hrest =>
        split at h
        . next heq =>
          cases h
          exact ⟨by rw [heq, List.nil_append], splitAtLast?_eq_none_iff.mp hrest⟩
        . cases h
  . rintro ⟨rfl, h⟩
    exact splitAtLast?_append before h

theorem intercalate_splitAtEach (x : α) (xs : List α) : List.intercalate [x] (splitAtEach x xs) = xs := by
  induction xs with
  | nil => rfl
  | cons y ys ih =>
    rw [splitAtEach]
    split
    . next hnil => exact absurd hnil (splitAtEach_ne_nil x ys)
    . next piece rest hpieces =>
      rw [hpieces] at ih
      split
      . next heq => rw [List.intercalate_cons_cons, ih, heq, List.nil_append, List.singleton_append]
      . next hne =>
        cases rest with
        | nil => rw [← ih, List.intercalate_singleton, List.intercalate_singleton]
        | cons => rw [← ih, List.intercalate_cons_cons, List.intercalate_cons_cons, List.cons_append, List.cons_append]

theorem not_mem_of_mem_splitAtEach {x : α} {xs piece : List α} (h : piece ∈ splitAtEach x xs) : x ∉ piece := by
  induction xs generalizing piece with
  | nil =>
    rw [List.mem_singleton.mp h]
    exact List.not_mem_nil
  | cons y ys ih =>
    unfold splitAtEach at h
    split at h
    . next hnil => exact absurd hnil (splitAtEach_ne_nil x ys)
    . next first rest hpieces =>
      rw [hpieces] at ih
      split at h
      . rcases List.mem_cons.mp h with rfl | hother
        . exact List.not_mem_nil
        . exact ih hother
      . next hne =>
        rcases List.mem_cons.mp h with rfl | hother
        . exact List.not_mem_cons_of_ne_of_not_mem (Ne.symm hne) (ih List.mem_cons_self)
        . exact ih (List.mem_cons_of_mem first hother)

theorem splitAtEach_eq_iff {x : α} {xs : List α} {pieces : List (List α)}
    : splitAtEach x xs = pieces
        ↔
      pieces ≠ [] ∧ (∀ piece ∈ pieces, x ∉ piece) ∧ List.intercalate [x] pieces = xs := by
  constructor
  . rintro rfl
    exact ⟨splitAtEach_ne_nil x xs, fun _ => not_mem_of_mem_splitAtEach, intercalate_splitAtEach x xs⟩
  . rintro ⟨hne, hpieces, rfl⟩
    exact splitAtEach_intercalate hne hpieces

end

theorem dropEndWhile_eq_rdropWhile (p : α → Bool) (xs : List α) : dropEndWhile p xs = xs.rdropWhile p := by
  unfold List.rdropWhile
  induction xs with
  | nil => rfl
  | cons x xs ih =>
    rw [dropEndWhile, List.reverse_cons, List.dropWhile_append]
    split
    . next hnil =>
      rw [ih, List.reverse_eq_nil_iff] at hnil
      rw [hnil, List.isEmpty_nil, if_pos rfl, List.dropWhile_cons]
      split
      . rfl
      . rfl
    . next hne =>
      rw [ih, List.reverse_eq_nil_iff] at hne
      rw [if_neg (by simpa using hne), List.reverse_append, ← ih]
      rfl

theorem not_of_mem_head?_dropWhile {p : α → Bool} {xs : List α} {x : α} (h : x ∈ (xs.dropWhile p).head?) : ¬ p x := by
  have hfirst := List.head?_dropWhile_not p xs
  rw [Option.mem_def.mp h] at hfirst
  exact Bool.eq_false_iff.mp hfirst

structure Trims (cs core : List Char) : Prop where
  parts : ∃ before after, cs = before ++ core ++ after ∧ (∀ c ∈ before, isBlank c) ∧ (∀ c ∈ after, isBlank c)
  first : ∀ c ∈ core.head?, ¬ isBlank c
  last : ∀ c ∈ core.getLast?, ¬ isBlank c

theorem trims_trim (cs : List Char) : Trims cs (trim cs) := by
  unfold trim
  rw [dropEndWhile_eq_rdropWhile]
  constructor
  . refine ⟨cs.takeWhile isBlank, (cs.dropWhile isBlank).rtakeWhile isBlank, ?_, ?_, ?_⟩
    . rw [List.append_assoc, List.rdropWhile_append_rtakeWhile, List.takeWhile_append_dropWhile]
    . exact fun _ => List.mem_takeWhile_imp
    . exact fun _ => List.mem_rtakeWhile_imp
  . intro c hc
    obtain ⟨rest, hrest⟩ := List.rdropWhile_prefix isBlank (cs.dropWhile isBlank)
    have hhead : c ∈ (cs.dropWhile isBlank).head? := by
      rw [← hrest, List.head?_append, Option.mem_def.mp hc]
      rfl
    exact not_of_mem_head?_dropWhile hhead
  . intro c hc
    unfold List.rdropWhile at hc
    rw [List.getLast?_reverse] at hc
    exact not_of_mem_head?_dropWhile hc

theorem Trims.trim_eq {cs core : List Char} (h : Trims cs core) : trim cs = core := by
  obtain ⟨⟨before, after, rfl, hbefore, hafter⟩, hfirst, hlast⟩ := h
  unfold trim
  rw [dropEndWhile_eq_rdropWhile, List.append_assoc, List.dropWhile_append_of_pos hbefore]
  cases core with
  | nil =>
    rw [List.nil_append, List.dropWhile_eq_nil_iff.mpr hafter]
    rfl
  | cons c core =>
    rw [List.cons_append, List.dropWhile_cons_of_neg (hfirst c rfl), ← List.cons_append]
    have hcore : (c :: core).rdropWhile isBlank = c :: core := by
      rw [List.rdropWhile_eq_self_iff]
      intro hne
      exact hlast _ (List.getLast?_eq_some_getLast hne)
    unfold List.rdropWhile at hcore ⊢
    rw [List.reverse_append, List.dropWhile_append_of_pos, hcore]
    intro other hother
    exact hafter other (List.mem_reverse.mp hother)

theorem trims_self {cs : List Char} (h : ∀ c ∈ cs, ¬ isBlank c) : Trims cs cs := by
  constructor
  . exact ⟨[], [], by simp, List.forall_mem_nil _, List.forall_mem_nil _⟩
  . exact fun c hc => h c (List.mem_of_head? hc)
  . exact fun c hc => h c (List.mem_of_getLast? hc)

end Text
end PcieSwitch
