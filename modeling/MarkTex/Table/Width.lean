import MarkTex.Number.Numeral

/-!
# Column widths

The width that the margins and the gaps between columns leave is shared among the columns that wrap,
in proportion to their lengths, with each share kept between a tenth and eight tenths. Shares that
do not fit together are cut down: what exceeds a tenth in proportion or, if even the tenths do not
fit, the shares as a whole. A width is a whole number of hundredths, rounded down.

The allocation is written over any numbers that offer its operations, so that it runs on doubles and
can be stated over exact fractions.
-/

namespace MarkTex.Table

/-- The operations that the allocation of widths needs. -/
class Fraction (α : Type) extends Add α, Sub α, Mul α where
  /-- `n` hundredths. -/
  hundredths : Nat → α
  /-- A whole number. -/
  whole : Int → α
  /-- The quotient of two whole numbers, if there is one that can be written. -/
  ratio? : Int → Int → Option α
  /-- The quotient of two numbers, if there is one. -/
  quotient? : α → α → Option α
  /-- Whether the first number is below the second. -/
  below : α → α → Bool
  /-- The whole hundredths of a number that is not negative. -/
  floorHundredths : α → Nat

/-! ## Numbers -/

instance : Fraction Rat where
  hundredths n := (n : Rat) / 100
  whole i := (i : Rat)
  ratio? n d := if d = 0 then none else some ((n : Rat) / (d : Rat))
  quotient? x y := if y = 0 then none else some (x / y)
  below x y := decide (x < y)
  floorHundredths x := (x * 100).floor.toNat

/-- A natural as a float of unbounded precision. -/
def unrounded (n : Nat) : Float.Model.UnpackedFloat :=
  if h : 0 < n then .finite .positive n 0 h else .zero .positive

/-- The double closest to the quotient of two naturals. -/
def naturalRatio (n d : Nat) : Float :=
  .ofModel (.pack (.div .binary64 (unrounded n) (unrounded d)))

/-- The double closest to the quotient of two integers. -/
def floatRatio (n d : Int) : Float :=
  let x := naturalRatio n.natAbs d.natAbs
  if (n < 0) != (d < 0) then -x else x

/-- The least number that is closer to infinity than to any double: it lies half a unit above the
largest one. -/
def infinityBound : Nat :=
  1 <<< 1024 - 1 <<< 970

/-- The whole hundredths in the shortest decimal of a double. -/
def floatHundredths (x : Float) : Nat :=
  let bits := x.toBits &&& 0x7FFFFFFFFFFFFFFF
  if bits == 0 then 0
  else
    let d := (Number.Binary.ofBits bits).shortest
    d.digits * Nat.pow 10 (d.exponent + 2).toNat / Nat.pow 10 (-(d.exponent + 2)).toNat

instance : Fraction Float where
  hundredths n := Float.ofScientific n true 2
  whole i :=
    let size := Float.ofScientific i.natAbs false 0
    if i < 0 then -size else size
  ratio? n d :=
    if d = 0 ∨ infinityBound * d.natAbs ≤ n.natAbs then none else some (floatRatio n d)
  quotient? x y := if y == 0.0 then none else some (x / y)
  below x y := x < y
  floorHundredths x := floatHundredths x

/-! ## Allocation -/

/-- Why no widths could be allocated. -/
inductive WidthFault where
  /-- There is no such column. -/
  | noSuchColumn (index : Int)
  /-- A quotient does not exist or is too large to be written. -/
  | noQuotient
  deriving DecidableEq, Repr

/-- What is wrong with the request. -/
def WidthFault.message : WidthFault → String
  | noSuchColumn _ => "list index out of range"
  | noQuotient => "integer division result too large for a float"

/-- The position that an index means in a list of `n` items; a negative index counts from the
end. -/
def position? (n : Nat) (index : Int) : Option Nat :=
  let i := if index < 0 then index + n else index
  if 0 ≤ i && i < n then some i.toNat else none

section

variable {α : Type} [Fraction α]

open Fraction

/-- The least share of a column. -/
def floorShare : α := hundredths 10

/-- The largest share of a column. -/
def ceilingShare : α := hundredths 80

/-- The width that the page margin and the gaps between `n` columns leave. -/
def available (n : Nat) : α :=
  hundredths 100 - hundredths 5 - hundredths 2 * whole (n - 1)

/-- A share that is neither below the least nor above the largest. -/
def clamp (share : α) : α :=
  let raised := if below share floorShare then floorShare else share
  if below ceilingShare raised then ceilingShare else raised

/-- The share of a column in proportion to its length; columns without any length share equally. -/
def share? (space : α) (total : Int) (count : Nat) (length : Int) : Option α :=
  (if 0 < total then ratio? length total else ratio? 1 count).map fun ratio =>
    clamp (space * ratio)

/-- The sum of shares, from first to last. -/
def sumShares (shares : List α) : α :=
  shares.foldl (· + ·) (whole 0)

/-- The shares cut down so that they fit into `space`. -/
def fit? (space : α) (shares : List α) : Option (List α) :=
  let allocated := sumShares shares
  if below space allocated then
    let floors := (floorShare : α) * whole shares.length
    if below space floors then
      (quotient? space allocated).map fun scale => shares.map (· * scale)
    else
      (quotient? (space - floors) (allocated - floors)).map fun scale =>
        shares.map fun share => floorShare + (share - floorShare) * scale
  else some shares

/-- The list with the value at each of the given positions replaced in turn. -/
def place (widths : List Nat) : List (Nat × Nat) → List Nat
  | [] => widths
  | (column, width) :: rest => place (widths.set column width) rest

/-- The items of a list at the given indexes. -/
def itemsAt (lengths : List Int) : List Int → Except WidthFault (List (Nat × Int))
  | [] => .ok []
  | index :: rest =>
    match position? lengths.length index with
    | none => .error (.noSuchColumn index)
    | some column => (itemsAt lengths rest).map ((column, lengths.getD column 0) :: ·)

variable (α) in
/-- The widths of all columns in hundredths of the text width, computed with numbers of type `α`.
Columns that do not wrap get none, and nobody gets any if the gaps take up the whole width. -/
def widthsOver (lengths : List Int) (long : List Int) : Except WidthFault (List Nat) :=
  let none := List.replicate lengths.length 0
  let space : α := available lengths.length
  if long.isEmpty || !below (whole 0) space then .ok none
  else do
    let chosen ← itemsAt lengths long
    let total := chosen.foldr (·.2 + ·) 0
    match (chosen.map (·.2)).mapM (share? space total chosen.length) >>= fit? space with
    | .none => .error .noQuotient
    | .some shares => .ok (place none ((chosen.map (·.1)).zip (shares.map floorHundredths)))

end

/-- The widths of all columns in hundredths of the text width. -/
def widths (lengths : List Int) (long : List Int) : Except WidthFault (List Nat) :=
  widthsOver Float lengths long

/-- A width as a fraction of the text width: hundredths with a point, and no zero at the end that
is not needed. -/
def writeWidth (width : Nat) : Text :=
  let hundredths := width % 100
  Number.writeInt (width / 100) ++ '.' ::
    (if hundredths % 10 == 0 then Number.writeInt (hundredths / 10)
    else Text.padZeros 2 (Number.writeInt hundredths))

end MarkTex.Table
