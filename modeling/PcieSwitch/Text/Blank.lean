/-!
This module contains the characters that count as blank, those of the Unicode property `White_Space`,
and trimming. Core's `Char.isWhitespace` knows only the ASCII ones.
-/

namespace PcieSwitch.Text

def blankRanges : List (Nat × Nat) := [
  (0x09, 0x0D), (0x20, 0x20), (0x85, 0x85), (0xA0, 0xA0), (0x1680, 0x1680), (0x2000, 0x200A),
  (0x2028, 0x2029), (0x202F, 0x202F), (0x205F, 0x205F), (0x3000, 0x3000)
]

def isBlank (c : Char) : Bool :=
  blankRanges.any fun (first, last) => first ≤ c.toNat && c.toNat ≤ last

def dropEndWhile (p : α → Bool) : List α → List α
  | [] => []
  | x :: xs =>
    match dropEndWhile p xs with
    | [] => if p x then [] else [x]
    | rest => x :: rest

def trim (cs : List Char) : List Char :=
  dropEndWhile isBlank (cs.dropWhile isBlank)

end PcieSwitch.Text
