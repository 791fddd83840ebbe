import PcieSwitch.Proofs.WrittenText

/-!
This module contains the outline of a printed text. Its lines are indented as far as they lie deep, so each of them stands
under the lines above it that are nearest and less deep.
-/

namespace PcieSwitch
namespace Text

theorem lines_cons (line : String) (ls : List String) : lines (line :: ls) = line ++ "\n" ++ lines ls := by
  unfold lines
  rw [List.map_cons, String.join_cons]

def linesOf (text : String) : List String :=
  (splitAtEach '\n' text.toList).dropLast.map String.ofList

theorem linesOf_lines {ls : List String} (h : ∀ line ∈ ls, '\n' ∉ line.toList) : linesOf (lines ls) = ls := by
  unfold linesOf
  induction ls with
  | nil => rfl
  | cons line ls ih =>
    obtain ⟨hline, hrest⟩ := List.forall_mem_cons.mp h
    have hend : "\n".toList = ['\n'] := rfl
    rw [lines_cons, String.toList_append, String.toList_append, hend, List.append_assoc]
    rw [List.singleton_append, splitAtEach_append hline, List.dropLast_cons_of_ne_nil (splitAtEach_ne_nil _ _)]
    rw [List.map_cons, String.ofList_toList, ih hrest]

/--
How deep a line lies: the heading of a group is not indented, what belongs to it is indented by blanks, and what belongs
to that by a tab.
-/
def depth (line : String) : Nat :=
  match line.toList with
  | '\t' :: _ => 2
  | ' ' :: _ => 1
  | _ => 0

theorem depth_append {word : String} (h : word ≠ "") (rest : String) : depth (word ++ rest) = depth word := by
  unfold depth
  rw [String.toList_append]
  cases hword : word.toList with
  | nil => exact absurd (String.toList_eq_nil_iff.mp hword) h
  | cons c cs =>
    rw [List.cons_append]
    split <;> simp_all

/--
Each line with the lines that it stands under, the nearest first. Others may have stood above it, of which those that
are not less deep end where it begins.
-/
def outlineFrom (above : List String) : List String → List (List String × String)
  | [] => []
  | line :: rest =>
    let path := above.dropWhile fun heading => depth line ≤ depth heading
    (path, line) :: outlineFrom (line :: path) rest

def outline (ls : List String) : List (List String × String) :=
  outlineFrom [] ls

section

variable {line last : String} {path rest : List String}

theorem outlineFrom_under (h : ∀ heading ∈ path.head?, depth heading < depth line)
    : outlineFrom path (line :: rest) = (path, line) :: outlineFrom (line :: path) rest := by
  have hpath : path.dropWhile (fun heading => depth line ≤ depth heading) = path := by
    cases path with
    | nil => rfl
    | cons heading path => exact List.dropWhile_cons_of_neg (by simpa using h heading rfl)
  rw [outlineFrom, hpath]

theorem outlineFrom_beside (h : depth line ≤ depth last)
    : outlineFrom (last :: path) (line :: rest) = outlineFrom path (line :: rest) := by
  rw [outlineFrom, outlineFrom, List.dropWhile_cons_of_pos (by simpa using h)]

theorem outlineFrom_of_depth_eq_zero (h : depth line = 0) (above : List String)
    : outlineFrom above (line :: rest) = ([], line) :: outlineFrom [line] rest := by
  induction above with
  | nil => exact outlineFrom_under (by simp)
  | cons last above ih => rw [outlineFrom_beside (by omega), ih]

end

def numberOf? : List Char → Option Nat
  | [] => none
  | digits => some (Nat.ofDigitChars 10 digits 0)

def number? (cs : List Char) : Option Nat :=
  numberOf? (cs.takeWhile Char.isDigit)

def numberAfter? (word line : String) : Option Nat :=
  (after? word.toList line.toList).bind number?

theorem toString_string (s : String) : toString s = s := by
  rfl

theorem isDigit_of_mem_repr {n : Nat} {c : Char} (h : c ∈ n.repr.toList) : c.isDigit = true := by
  rw [Nat.toList_repr] at h
  exact Nat.isDigit_of_mem_toDigits (by decide) (by decide) h

theorem not_mem_repr {c : Char} (h : c.isDigit = false) (n : Nat) : c ∉ n.repr.toList := by
  intro hmem
  rw [isDigit_of_mem_repr hmem] at h
  cases h

theorem numberOf?_repr (n : Nat) : numberOf? n.repr.toList = some n := by
  rw [Nat.toList_repr]
  unfold numberOf?
  split
  . next hnil => exact absurd hnil Nat.toDigits_ne_nil
  . rw [Nat.ofDigitChars_ten_toDigits]

theorem number?_repr_append (n : Nat) {cs : List Char} (h : ∀ c ∈ cs.head?, c.isDigit = false)
    : number? (n.repr.toList ++ cs) = some n := by
  have hcs : cs.takeWhile Char.isDigit = [] := by
    cases cs with
    | nil => rfl
    | cons c cs => exact List.takeWhile_cons_of_neg (Bool.eq_false_iff.mp (h c rfl))
  unfold number?
  rw [List.takeWhile_append_of_pos fun c => isDigit_of_mem_repr, hcs, List.append_nil, numberOf?_repr]

theorem after?_append (word cs : List Char) : after? word (word ++ cs) = some cs := by
  induction word with
  | nil => rfl
  | cons c word ih =>
    rw [List.cons_append, after?, if_pos rfl, ih]

theorem numberAfter?_append (word : String) (n : Nat) {rest : String} (h : ∀ c ∈ rest.toList.head?, c.isDigit = false)
    : numberAfter? word (word ++ n.repr ++ rest) = some n := by
  unfold numberAfter?
  rw [String.toList_append, String.toList_append, List.append_assoc, after?_append]
  exact number?_repr_append n h

end Text
end PcieSwitch
