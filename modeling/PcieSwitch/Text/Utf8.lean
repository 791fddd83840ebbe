import PcieSwitch.Bytes

/-!
This module contains the lossy reading of bytes as text: each longest piece that starts a character
but cannot be completed becomes one replacement character.
-/

namespace PcieSwitch.Utf8

def replacement : Char := '\uFFFD'

/--
Whether a second byte may follow a lead byte. The narrower ranges keep out overlong forms, surrogates
and code points past the last one.
-/
def secondFits (lead second : UInt8) : Bool :=
  if lead == 0xE0 then 0xA0 ≤ second && second ≤ 0xBF
  else if lead == 0xED then 0x80 ≤ second && second ≤ 0x9F
  else if lead == 0xF0 then 0x90 ≤ second && second ≤ 0xBF
  else if lead == 0xF4 then 0x80 ≤ second && second ≤ 0x8F
  else 0x80 ≤ second && second ≤ 0xBF

def announced? (lead : UInt8) : Option Nat :=
  if lead < 0x80 then some 1
  else if 0xC2 ≤ lead && lead ≤ 0xDF then some 2
  else if 0xE0 ≤ lead && lead ≤ 0xEF then some 3
  else if 0xF0 ≤ lead && lead ≤ 0xF4 then some 4
  else none

def isContinuation (b : UInt8) : Bool :=
  0x80 ≤ b && b ≤ 0xBF

def continued (lead : UInt8) (rest : Bytes) (count : Nat) : Nat :=
  match rest, count with
  | b :: rest, count + 1 =>
    if secondFits lead b then 1 + ((rest.take count).takeWhile isContinuation).length else 0
  | _, _ => 0

def codePoint : Bytes → Nat
  | [a] => a.toNat
  | [a, b] => (a.toNat % 0x20) * 0x40 + b.toNat % 0x40
  | [a, b, c] => ((a.toNat % 0x10) * 0x40 + b.toNat % 0x40) * 0x40 + c.toNat % 0x40
  | [a, b, c, d] =>
    (((a.toNat % 0x08) * 0x40 + b.toNat % 0x40) * 0x40 + c.toNat % 0x40) * 0x40 + d.toNat % 0x40
  | _ => 0xFFFD

def lossy (data : Bytes) : List Char :=
  match data with
  | [] => []
  | lead :: rest =>
    match announced? lead with
    | none => replacement :: lossy rest
    | some length =>
      let extra := continued lead rest (length - 1)
      let char := if extra + 1 = length then Char.ofNat (codePoint (lead :: rest.take extra)) else replacement
      char :: lossy (rest.drop extra)
  termination_by data.length
  decreasing_by all_goals simp only [List.length_cons, List.length_drop]; omega

end PcieSwitch.Utf8
