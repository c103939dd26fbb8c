import MarkTex.Number.Shortest
import MarkTex.Value

/-!
# The order of a set of numbers

A set tells its members slot by slot. Every number has a remainder by the prime `2 ^ 61 - 1`, which
points to the slot where it goes or, if that is taken, to others where it may go. The number of
slots is a power of two that depends on the number of members. The slots of what is no number are
not known, so a set that holds such a member tells its members in the order in which they came.
-/

namespace MarkTex.Value

/-! ## Remainders -/

/-- The prime by which remainders are taken. -/
def slotPrime : Nat := Nat.pow 2 61 - 1

/-- A remainder with the sign of its number; minus one is no remainder, minus two takes its place.
-/
def signedRemainder (negative : Bool) (remainder : Nat) : Int :=
  if !negative then remainder else if remainder = 1 then -2 else -remainder

/-- The remainder of a number. Since `2 ^ 61` leaves one, so does every power of it, and the
exponent of a double only counts modulo 61. -/
def remainder? (v : Value) : Option Int :=
  match v.keyNumber? with
  | some (.inl i) => some (signedRemainder (i < 0) (i.natAbs % slotPrime))
  | some (.inr x) =>
    if x.isNaN then none
    else if x.isInf then some (if x < 0.0 then -314159 else 314159)
    else
      let b := Number.Binary.ofBits (x.toBits &&& 0x7FFFFFFFFFFFFFFF)
      some (signedRemainder (x < 0.0) (b.mantissa * Nat.pow 2 (b.exponent % 61).toNat % slotPrime))
  | none => none

/-! ## Slots -/

/-- The number of slots for `n` members. -/
def slotCount (n : Nat) : Nat :=
  if n < 5 then 8 else Nat.pow 2 ((2 * n).log2 + 1)

/-- The slots that are tried next to the slot `i` of `count`. -/
def slotsNear (count i : Nat) : List Nat :=
  if i + 9 < count then List.range' i 10 else [i]

/-- The first free slot that a remainder leads to, from the slot `i` on. `digits` are what is left
of the remainder to choose further slots by, and `fuel` bounds the number of choices. -/
def freeSlot (slots : Array (Option Value)) (fuel i digits : Nat) : Nat :=
  match fuel with
  | 0 => i
  | fuel + 1 =>
    match (slotsNear slots.size i).find? fun j => ((slots[j]?).getD none).isNone with
    | some j => j
    | none =>
      let digits := digits / 32
      freeSlot slots fuel ((5 * i + 1 + digits) % slots.size) digits

/-- The slots with one more member in them. -/
def putInSlot (slots : Array (Option Value)) (member : Value × Int) : Array (Option Value) :=
  let digits := (member.2 % 0x10000000000000000).toNat
  let fuel := slots.size + 16
  slots.setIfInBounds (freeSlot slots fuel (digits % slots.size) digits) (some member.1)

/-- The members of a set in the order in which it tells them. -/
def inSlotOrder (members : List Value) : List Value :=
  match members.mapM remainder? with
  | none => members
  | some remainders =>
    let slots := Array.replicate (slotCount members.length) none
    ((members.zip remainders).foldl putInSlot slots).toList.filterMap id

end MarkTex.Value
