/-!
This module contains the cutting of lists into pages, and of ranges of numbers into spans.
-/

namespace PcieSwitch

/--
Consecutive pages of `size` elements. Only the last one may be shorter. A size of zero counts as one.
-/
def pages (size : Nat) (xs : List α) : List (List α) :=
  match xs with
  | [] => []
  | x :: xs =>
    (x :: xs.take (size - 1)) :: pages size (xs.drop (size - 1))
  termination_by xs.length
  decreasing_by simp only [List.length_cons, List.length_drop]; omega

def spans (size offset length : Nat) : List (Nat × Nat) :=
  if length = 0 then []
  else if size = 0 then []
  else (offset, min size length) :: spans size (offset + min size length) (length - min size length)
  termination_by length

end PcieSwitch
