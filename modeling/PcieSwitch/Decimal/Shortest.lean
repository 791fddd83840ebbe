import PcieSwitch.Decimal.Fixed

/-!
This module contains the shortest decimal text of a floating point number: the fewest digits that no
other number of the type is nearer to, and of those the ones nearest to the value.
-/

namespace PcieSwitch.Decimal

structure Scaled where
  digits : Nat
  exponent : Int
  deriving DecidableEq, Repr

/--
The numbers that round to a value lie between two halfway points. `low`, `value` and `high` are those
points and the value itself in units of `1 / scale`; the points count only for an even mantissa.
-/
structure Interval where
  low : Nat
  value : Nat
  high : Nat
  scale : Nat
  closed : Bool
  deriving Repr

namespace Interval

/--
The interval of a value other than zero. Below a power of two the next smaller number is half as far away,
except at the least exponent.
-/
def ofBinary (b : Binary) : Interval :=
  let narrow := b.mantissa == 1 <<< 52 && b.exponent != -1074
  let (up, down) := Binary.powerOfTwo (b.exponent - 2)
  ⟨(4 * b.mantissa - (if narrow then 1 else 2)) * up, 4 * b.mantissa * up, (4 * b.mantissa + 2) * up, down,
    b.mantissa % 2 == 0⟩

def holds (i : Interval) (count num den : Nat) : Bool :=
  let x := count * num * i.scale
  if i.closed then i.low * den ≤ x && x ≤ i.high * den else i.low * den < x && x < i.high * den

/--
The multiple of `10 ^ exponent` inside the interval that is nearest to the value, if there is one.
Of two equally near the even one is taken.
-/
def nearest? (i : Interval) (exponent : Int) : Option Nat :=
  let (num, den) := if exponent < 0 then (1, Nat.pow 10 exponent.natAbs) else (Nat.pow 10 exponent.natAbs, 1)
  let below := i.value * den / (num * i.scale)
  let rounded := Binary.roundDiv (i.value * den) (num * i.scale)
  let other := if rounded = below then below + 1 else below
  if i.holds rounded num den then some rounded
  else if i.holds other num den then some other
  else none

def search (i : Interval) (exponent : Int) (steps : Nat) : Scaled :=
  match steps with
  | 0 => ⟨0, 0⟩
  | steps + 1 =>
    match i.nearest? exponent with
    | some digits => if digits = 0 then i.search (exponent - 1) steps else ⟨digits, exponent⟩
    | none => i.search (exponent - 1) steps

end Interval

/--
The shortest decimal of a finite value. A double lies below `10 ^ 309`, and `10 ^ -324` is fine enough
for every one.
-/
def shortest (b : Binary) : Scaled :=
  if b.mantissa = 0 then ⟨0, 0⟩ else (Interval.ofBinary b).search 309 640

def shortestText (v : Float) : String :=
  let b := Binary.ofBits v.toBits
  let d := shortest b
  let text :=
    if d.exponent < 0 then positional d.digits d.exponent.natAbs
    else positional (d.digits * Nat.pow 10 d.exponent.natAbs) 0 ++ ['.', '0']
  String.ofList (if b.negative then '-' :: text else text)

end PcieSwitch.Decimal
