/-!
This module contains the splitting of a text, or of any list, at the places where an element occurs.
-/

namespace PcieSwitch.Text

variable [DecidableEq α]

def splitAtEach (x : α) : List α → List (List α)
  | [] => [[]]
  | y :: ys =>
    match splitAtEach x ys with
    | [] => [[y]]
    | piece :: rest => if y = x then [] :: piece :: rest else (y :: piece) :: rest

def splitAtFirst? (x : α) : List α → Option (List α × List α)
  | [] => none
  | y :: ys =>
    if y = x then some ([], ys) else (splitAtFirst? x ys).map fun (before, after) => (y :: before, after)

def splitAtLast? (x : α) : List α → Option (List α × List α)
  | [] => none
  | y :: ys =>
    match splitAtLast? x ys with
    | some (before, after) => some (y :: before, after)
    | none => if y = x then some ([], ys) else none

def after? : (word text : List α) → Option (List α)
  | [], cs => some cs
  | w :: ws, c :: cs => if w = c then after? ws cs else none
  | _ :: _, [] => none

end PcieSwitch.Text
