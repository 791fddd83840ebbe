import PcieSwitch.Decimal.Fixed

/-!
This module contains amounts of data and data rates as people read them: three significant digits and a
unit scaled by powers of a thousand.
-/

namespace PcieSwitch.Decimal

def scaled (value : Float) : Float × String :=
  go value "" ["k", "M", "G", "T"]
where
  go (value : Float) (unit : String) (larger : List String) : Float × String :=
    match larger with
    | [] => (value, unit)
    | next :: larger => if value.abs ≥ 1000.0 then go (value / 1000.0) next larger else (value, unit)

def byteCount (bytes : UInt64) : String :=
  let (value, unit) := scaled bytes.toFloat
  threeDigits value ++ " " ++ unit ++ "B"

def byteRate (bytes microseconds : UInt64) : String :=
  let rate := if microseconds == 0 then 0.0 else bytes.toFloat / (microseconds.toFloat * 1e-6)
  let (value, unit) := scaled rate
  threeDigits value ++ " " ++ unit ++ "B/s"

end PcieSwitch.Decimal
