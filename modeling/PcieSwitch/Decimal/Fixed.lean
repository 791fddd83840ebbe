import PcieSwitch.Decimal.Binary
import PcieSwitch.Text.Layout
import PcieSwitch.Text.Blank

/-!
This module contains decimal text with a fixed number of places, and text with three significant digits.
-/

namespace PcieSwitch.Decimal

def positional (units places : Nat) : List Char :=
  let digits := Nat.toDigits 10 units
  let digits := List.replicate (places + 1 - digits.length) '0' ++ digits
  let whole := digits.take (digits.length - places)
  if places = 0 then whole else whole ++ '.' :: digits.drop (digits.length - places)

def fixed (value : Binary) (places : Nat) : List Char :=
  let text := positional (value.units places) places
  if value.negative then '-' :: text else text

def dropTrailingZeros (text : List Char) : List Char :=
  if text.contains '.' then
    Text.dropEndWhile (· == '.') (Text.dropEndWhile (· == '0') text)
  else
    text

def threeDigits (v : Float) : String :=
  if v == 0.0 || !v.isFinite then
    "0"
  else
    let magnitude := v.abs.log10.floor.toInt64.toInt
    let places := (2 - magnitude).toNat
    String.ofList (dropTrailingZeros (fixed (.ofBits v.toBits) places))

end PcieSwitch.Decimal
