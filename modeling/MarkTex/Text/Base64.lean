import MarkTex.Text.Utf8

/-!
# Bytes in base 64

Four characters, six bits each, stand for three bytes. The last group may be shorter, with padding
in place of what is missing. Characters that are none of base 64 are passed over, and so is padding
where there is nothing to fill; what follows full padding is not read.
-/

namespace MarkTex.Text.Base64

/-- The bits that a character stands for. -/
def sextet? (c : Char) : Option Nat :=
  let n := c.toNat
  if 'A' ≤ c && c ≤ 'Z' then some (n - 65)
  else if 'a' ≤ c && c ≤ 'z' then some (n - 71)
  else if '0' ≤ c && c ≤ '9' then some (n + 4)
  else if c = '+' then some 62
  else if c = '/' then some 63
  else none

/-- The bytes that the rest of a text stands for. `place` is the number of characters of the group
that were read, `held` the bits of the last one that are part of no byte yet, and `pads` how much
padding came after it. -/
def decodeFrom (place held pads : Nat) : Text → Option Bytes
  | [] => if place = 0 then some [] else none
  | c :: r =>
    if c = '=' then
      if place < 2 then decodeFrom place held pads r
      else if place + pads + 1 < 4 then decodeFrom place held (pads + 1) r
      else some []
    else
      match sextet? c with
      | none => decodeFrom place held pads r
      | some v =>
        if place = 0 then decodeFrom 1 v 0 r
        else
          let unit := Nat.pow 4 (3 - place)
          let byte := UInt8.ofNat (held * Nat.pow 4 place + v / unit)
          (decodeFrom ((place + 1) % 4) (v % unit) 0 r).map (byte :: ·)

/-- The bytes that a text stands for, unless its last group is cut short. -/
def decode (t : Text) : Option Bytes :=
  decodeFrom 0 0 0 t

end MarkTex.Text.Base64
