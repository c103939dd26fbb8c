/-!
# The shortest decimal of a double

A double stands for every real number that rounds to it. Of the decimals among those, the shortest
is the one with the fewest digits; of several as short, the one closest to the double; and of two as
close, the one whose last digit is even.
-/

namespace MarkTex.Number

/-- A number `digits · 10 ^ exponent`. -/
structure Decimal where
  digits : Nat
  exponent : Int
  deriving DecidableEq, Repr

/-- A positive double `mantissa · 2 ^ exponent`. Below a power of two the doubles are twice as
close, which `narrow` says of the gap under this one. -/
structure Binary where
  mantissa : Nat
  exponent : Int
  narrow : Bool
  deriving DecidableEq, Repr

/-- The double that the bits of a finite positive number give. -/
def Binary.ofBits (bits : UInt64) : Binary :=
  let field := ((bits >>> 52) &&& 0x7FF).toNat
  let fraction := (bits &&& 0xFFFFFFFFFFFFF).toNat
  if field == 0 then ⟨fraction, -1074, false⟩
  else ⟨Nat.pow 2 52 + fraction, field - 1075, fraction == 0 && field != 1⟩

/-- How `a · 10 ^ i` compares with `b · 2 ^ j`. -/
def compareScaled (a : Nat) (i : Int) (b : Nat) (j : Int) : Ordering :=
  compare (a * Nat.pow 10 i.toNat * Nat.pow 2 (-j).toNat)
    (b * Nat.pow 2 j.toNat * Nat.pow 10 (-i).toNat)

/-- Whether the decimal rounds to the double: it lies between the points halfway to the double's
neighbours, which themselves round to it if its mantissa is even. -/
def Binary.covers (x : Binary) (d : Decimal) : Bool :=
  let below := compareScaled d.digits d.exponent
    (if x.narrow then 4 * x.mantissa - 1 else 4 * x.mantissa - 2) (x.exponent - 2)
  let above := compareScaled d.digits d.exponent (4 * x.mantissa + 2) (x.exponent - 2)
  if x.mantissa % 2 == 0 then below != .lt && above != .gt else below == .gt && above == .lt

/-- The largest number of steps of `10 ^ exponent` that does not exceed the double. -/
def Binary.stepsBelow (x : Binary) (exponent : Int) : Nat :=
  (x.mantissa * Nat.pow 2 x.exponent.toNat * Nat.pow 10 (-exponent).toNat) /
    (Nat.pow 10 exponent.toNat * Nat.pow 2 (-x.exponent).toNat)

/-- How the double compares with the middle between `steps` and `steps + 1` steps. -/
def Binary.compareMiddle (x : Binary) (steps : Nat) (exponent : Int) : Ordering :=
  (compareScaled (2 * steps + 1) exponent (2 * x.mantissa) x.exponent).swap

/-- The decimal in steps of `10 ^ exponent` that is closest to the double, if one rounds to it. -/
def Binary.onGrid? (x : Binary) (exponent : Int) : Option Decimal :=
  let steps := x.stepsBelow exponent
  let low : Decimal := ⟨steps, exponent⟩
  let high : Decimal := ⟨steps + 1, exponent⟩
  if x.covers low && steps != 0 then
    if x.covers high then
      match x.compareMiddle steps exponent with
      | .lt => some low
      | .gt => some high
      | .eq => some (if steps % 2 == 0 then low else high)
    else some low
  else if x.covers high then some high
  else none

/-- The number of decimal digits of `n`. -/
def digitCount (n : Nat) : Nat :=
  (Nat.toDigits 10 n).length

/-- The least exponent whose power of ten exceeds the double, or one more. -/
def Binary.scale (x : Binary) : Int :=
  digitCount (x.mantissa * Nat.pow 2 x.exponent.toNat) -
    digitCount (Nat.pow 2 (-x.exponent).toNat) + 1

/-- The decimal without zeros at the end of its digits. -/
def Decimal.trim (d : Decimal) : Nat → Decimal
  | 0 => d
  | fuel + 1 =>
    if d.digits != 0 && d.digits % 10 == 0 then
      Decimal.trim ⟨d.digits / 10, d.exponent + 1⟩ fuel
    else d

/-- The shortest decimal of a positive double: the coarsest grid with a decimal that rounds to it
gives it. -/
def Binary.shortest (x : Binary) : Decimal :=
  let grids := (List.range 20).map fun (n : Nat) => x.scale - n
  let found := grids.findSome? x.onGrid?
  (found.getD ⟨x.mantissa * Nat.pow 5 (-x.exponent).toNat * Nat.pow 2 x.exponent.toNat,
    min x.exponent 0⟩).trim 20

end MarkTex.Number
