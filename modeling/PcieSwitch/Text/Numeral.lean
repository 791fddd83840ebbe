/-!
This module contains the reading and writing of integers as text. A numeral is an optional `+` and one
or more digits of its base; a value that its type cannot hold is an error, never a remainder.
-/

namespace PcieSwitch

inductive NumeralError where
  | empty
  | invalidDigit
  | tooLarge
  deriving DecidableEq, Repr

def NumeralError.message : NumeralError → String
  | .empty => "cannot parse integer from empty string"
  | .invalidDigit => "invalid digit found in string"
  | .tooLarge => "number too large to fit in target type"

namespace Numeral

def digit? (base : Nat) (c : Char) : Option Nat :=
  let value? :=
    if '0' ≤ c ∧ c ≤ '9' then some (c.toNat - 48)
    else if 'a' ≤ c ∧ c ≤ 'f' then some (c.toNat - 87)
    else if 'A' ≤ c ∧ c ≤ 'F' then some (c.toNat - 55)
    else none
  value?.filter (· < base)

/--
Read digits after a value already read. The first character that is no digit or takes the value to the
limit decides the error.
-/
def digits (base limit value : Nat) : List Char → Except NumeralError Nat
  | [] => .ok value
  | c :: cs =>
    match digit? base c with
    | none => .error .invalidDigit
    | some d =>
      if base * value + d < limit then digits base limit (base * value + d) cs
      else .error .tooLarge

def parse (base limit : Nat) : List Char → Except NumeralError Nat
  | [] => .error .empty
  | ['+'] => .error .invalidDigit
  | '+' :: cs => digits base limit 0 cs
  | cs => digits base limit 0 cs

def parseHex (bits : Nat) (cs : List Char) : Except NumeralError Nat :=
  parse 16 (1 <<< bits) cs

def parseDec (bits : Nat) (cs : List Char) : Except NumeralError Nat :=
  parse 10 (1 <<< bits) cs

def afterHexMark? : List Char → Option (List Char)
  | '0' :: 'x' :: cs => some cs
  | '0' :: 'X' :: cs => some cs
  | _ => none

def toText (base n : Nat) : List Char :=
  Nat.toDigits base n

end Numeral
end PcieSwitch
