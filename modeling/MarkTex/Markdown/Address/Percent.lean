import MarkTex.Markdown.CharacterReference

/-!
# Percent encoding

An address is written in ASCII: every other character becomes its UTF-8 octets, each as a percent
sign and two hexadecimal digits. Octets that are already written so stay. For reading, the octets
are put together again, except where they stand for a character that delimits parts of an address.
-/

namespace MarkTex.Markdown.Address

/-- The UTF-8 octets of a character. -/
def octets (c : Char) : List Nat :=
  let n := c.toNat
  if n < 0x80 then [n]
  else if n < 0x800 then [0xC0 + n / 0x40, 0x80 + n % 0x40]
  else if n < 0x10000 then [0xE0 + n / 0x1000, 0x80 + n / 0x40 % 0x40, 0x80 + n % 0x40]
  else [0xF0 + n / 0x40000, 0x80 + n / 0x1000 % 0x40, 0x80 + n / 0x40 % 0x40, 0x80 + n % 0x40]

/-- A hexadecimal digit in capitals. -/
def capitalHexDigit (n : Nat) : Char :=
  if n < 10 then Char.ofNat (48 + n) else Char.ofNat (55 + n)

/-- An octet as a percent sign and two digits. -/
def percentOctet (n : Nat) : Text :=
  ['%', capitalHexDigit (n / 16), capitalHexDigit (n % 16)]

/-! ## Encoding -/

/-- Whether `c` stands for itself in an address. -/
def isPlain (c : Char) : Bool :=
  Text.isAsciiAlphanum c || ";/?:@&=+$,-_.!~*'()#".toList.contains c

/-- An address in ASCII. -/
def encode : Text → Text
  | '%' :: a :: b :: r =>
    if isHexDigit a && isHexDigit b then '%' :: a :: b :: encode r
    else percentOctet 0x25 ++ encode (a :: b :: r)
  | c :: r => (if isPlain c then [c] else (octets c).flatMap percentOctet) ++ encode r
  | [] => []

/-! ## Decoding -/

/-- Whether `c` delimits parts of an address or starts an encoded octet. -/
def isReserved (c : Char) : Bool :=
  ";/?:@&=+$,#%".toList.contains c

/-- The octets that a text starts with, and what follows them. -/
def cutOctets : Text → List Nat × Text
  | '%' :: a :: b :: r =>
    if isHexDigit a && isHexDigit b then
      let (found, rest) := cutOctets r
      (hexValue [a, b] :: found, rest)
    else ([], '%' :: a :: b :: r)
  | t => ([], t)

/-- Whether an octet continues a character. -/
def isContinuation (n : Nat) : Bool :=
  0x80 ≤ n && n < 0xC0

/-- The character of several octets, if its encoding is the shortest one and it is a character. -/
def multiOctet (least n count : Nat) : Text :=
  if least ≤ n && n ≤ 0x10FFFF && !(0xD800 ≤ n && n ≤ 0xDFFF) then [Char.ofNat n]
  else List.replicate count '\uFFFD'

/-- The text of octets; what is no character becomes U+FFFD, and reserved characters stay encoded.
-/
def decodeOctets : List Nat → Text
  | [] => []
  | a :: rest =>
    if a < 0x80 then
      let c := Char.ofNat a
      (if isReserved c then percentOctet a else [c]) ++ decodeOctets rest
    else
      match rest with
      | b :: c :: d :: r =>
        if 0xC0 ≤ a && a < 0xE0 && isContinuation b then
          multiOctet 0x80 (a % 0x20 * 0x40 + b % 0x40) 2 ++ decodeOctets (c :: d :: r)
        else if 0xE0 ≤ a && a < 0xF0 && isContinuation b && isContinuation c then
          multiOctet 0x800 (a % 0x10 * 0x1000 + b % 0x40 * 0x40 + c % 0x40) 3 ++
            decodeOctets (d :: r)
        else if
            0xF0 ≤ a && a < 0xF8 && isContinuation b && isContinuation c && isContinuation d then
          multiOctet 0x10000
            (a % 0x08 * 0x40000 + b % 0x40 * 0x1000 + c % 0x40 * 0x40 + d % 0x40) 4 ++
            decodeOctets r
        else '\uFFFD' :: decodeOctets (b :: c :: d :: r)
      | [b, c] =>
        if 0xC0 ≤ a && a < 0xE0 && isContinuation b then
          multiOctet 0x80 (a % 0x20 * 0x40 + b % 0x40) 2 ++ decodeOctets [c]
        else if 0xE0 ≤ a && a < 0xF0 && isContinuation b && isContinuation c then
          multiOctet 0x800 (a % 0x10 * 0x1000 + b % 0x40 * 0x40 + c % 0x40) 3
        else '\uFFFD' :: decodeOctets [b, c]
      | [b] =>
        if 0xC0 ≤ a && a < 0xE0 && isContinuation b then
          multiOctet 0x80 (a % 0x20 * 0x40 + b % 0x40) 2
        else '\uFFFD' :: decodeOctets [b]
      | [] => ['\uFFFD']

/-- An address for reading. `fuel` bounds the number of steps. -/
def decodeFrom (fuel : Nat) (t : Text) : Text :=
  match fuel, t with
  | fuel + 1, c :: r =>
    match cutOctets (c :: r) with
    | ([], _) => c :: decodeFrom fuel r
    | (found, rest) => decodeOctets found ++ decodeFrom fuel rest
  | _, rest => rest

/-- An address for reading. -/
def decode (t : Text) : Text :=
  decodeFrom t.length t

end MarkTex.Markdown.Address
