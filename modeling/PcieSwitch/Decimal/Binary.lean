/-!
This module contains the exact value of a floating point number, as a whole number times a power of two,
and the rounding of such a value to whole units.
-/

namespace PcieSwitch

structure Binary where
  negative : Bool
  mantissa : Nat
  exponent : Int
  deriving DecidableEq, Repr

namespace Binary

/--
The value of a finite number from the bits of its double precision form. The bits of infinities and of
values that are no number have the largest exponent and are read as if they were finite.
-/
def ofBits (bits : UInt64) : Binary :=
  let fraction : Nat := bits.toNat % 1 <<< 52
  let field : Nat := bits.toNat >>> 52 % 1 <<< 11
  let negative := bits.toNat >>> 63 == 1
  if field == 0 then ⟨negative, fraction, -1074⟩ else ⟨negative, 1 <<< 52 + fraction, (field : Int) - 1075⟩

def roundDiv (num den : Nat) : Nat :=
  let q := num / den
  let r := num % den
  if 2 * r < den then q
  else if den < 2 * r then q + 1
  else q + q % 2

def powerOfTwo (exponent : Int) : Nat × Nat :=
  if exponent < 0 then (1, 1 <<< exponent.natAbs) else (1 <<< exponent.natAbs, 1)

def units (value : Binary) (places : Nat) : Nat :=
  let (up, down) := powerOfTwo value.exponent
  roundDiv (value.mantissa * up * Nat.pow 10 places) down

end Binary
end PcieSwitch
