import MarkTex.Text.Case
import MarkTex.Text.Basic

/-!
# Host names

A label of a host name that is not ASCII is written as `xn--`, its ASCII characters, and the places
at which the other characters are to be inserted, as numbers of variable length. The digits are the
letters and then the digits; how many values a digit has adapts to the numbers before.
-/

namespace MarkTex.Markdown.Address

/-! ## Numbers of variable length -/

/-- The least value at which a digit at position `k` (from 36 in steps of 36) goes on, under the
given bias. -/
def threshold (k bias : Nat) : Nat :=
  if k ≤ bias then 1 else if bias + 26 ≤ k then 26 else k - bias

/-- The bias loop: scales a distance down and counts the steps. -/
def scaleDown (fuel delta k : Nat) : Nat :=
  match fuel with
  | 0 => k
  | fuel + 1 =>
    if 455 < delta then scaleDown fuel (delta / 35) (k + 36) else k + 36 * delta / (delta + 38)

/-- The bias after a distance `delta` to the place of one of `count` characters. -/
def adapt (delta count : Nat) (first : Bool) : Nat :=
  let delta := if first then delta / 700 else delta / 2
  scaleDown (delta + 1) (delta + delta / count) 0

/-- The digit of a value below 36. -/
def punycodeDigit (n : Nat) : Char :=
  if n < 26 then Char.ofNat (97 + n) else Char.ofNat (22 + n)

/-- A number as digits under a bias. -/
def writeNumber (fuel n k bias : Nat) : Text :=
  let t := threshold k bias
  match fuel with
  | 0 => [punycodeDigit (n % 36)]
  | fuel + 1 =>
    if n < t then [punycodeDigit n]
    else
      punycodeDigit (t + (n - t) % (36 - t)) :: writeNumber fuel ((n - t) / (36 - t)) (k + 36) bias

/-! ## Encoding -/

/-- Whether a character is written as it is in a label. -/
def isBasic (c : Char) : Bool :=
  c.toNat < 0x80

/-- The least code point of the text from `n` on. -/
def nextCodePoint (t : Text) (n : Nat) : Option Nat :=
  ((t.map Char.toNat).filter (n ≤ ·)).min?

/-- What the insertion of the characters of code point `n` adds to the encoding: the digits written,
the distance since the last insertion, the number of characters handled, the bias, and whether
anything was inserted before. -/
structure Insertions where
  digits : Text := []
  delta : Nat := 0
  handled : Nat
  bias : Nat := 72
  first : Bool := true

/-- Passes one character of the text while those of code point `n` are inserted. -/
def Insertions.pass (n : Nat) (s : Insertions) (c : Char) : Insertions :=
  if c.toNat < n then { s with delta := s.delta + 1 }
  else if c.toNat = n then
    { digits := s.digits ++ writeNumber (s.delta + 1) s.delta 36 s.bias
      delta := 0
      handled := s.handled + 1
      bias := adapt s.delta (s.handled + 1) s.first
      first := false }
  else s

/-- Inserts all characters of the text from code point `n` on. -/
def insertFrom (fuel : Nat) (t : Text) (n : Nat) (s : Insertions) : Insertions :=
  match fuel with
  | 0 => s
  | fuel + 1 =>
    match nextCodePoint t n with
    | none => s
    | some m =>
      let start := { s with delta := s.delta + (m - n) * (s.handled + 1) }
      let done := t.foldl (Insertions.pass m) start
      insertFrom fuel t (m + 1) { done with delta := done.delta + 1 }

/-- A label in ASCII, without the mark in front. -/
def encodeLabel (label : Text) : Text :=
  let basic := label.filter isBasic
  let inserted := insertFrom label.length label 0x80 { handled := basic.length }
  (if basic.isEmpty then [] else basic ++ ['-']) ++ inserted.digits

/-! ## Decoding -/

/-- The value of a digit. -/
def punycodeValue? (c : Char) : Option Nat :=
  if 'a' ≤ c && c ≤ 'z' then some (c.toNat - 97)
  else if '0' ≤ c && c ≤ '9' then some (c.toNat - 22)
  else none

/-- The number that digits start with under a bias, and the digits after it. -/
def readNumber (value weight k bias : Nat) : Text → Option (Nat × Text)
  | [] => none
  | c :: r =>
    match punycodeValue? c with
    | none => none
    | some d =>
      let value := value + d * weight
      let t := threshold k bias
      if d < t then some (value, r) else readNumber value (weight * (36 - t)) (k + 36) bias r

/-- Inserts the characters that digits tell into a text. `place` is the number of places passed
since the first one of the first code point. -/
def insertDigits (fuel : Nat) (t : Text) (place : Nat) (codePoint bias : Nat) (first : Bool)
    (digits : Text) : Option Text :=
  match fuel, digits with
  | _, [] => some t
  | 0, _ => none
  | fuel + 1, digits =>
    match readNumber 0 1 36 bias digits with
    | none => none
    | some (delta, rest) =>
      let count := t.length + 1
      let total := place + delta
      let codePoint := codePoint + total / count
      let position := total % count
      if 0x10FFFF < codePoint then none
      else
        insertDigits fuel (t.insertIdx position (Char.ofNat codePoint)) (position + 1) codePoint
          (adapt delta count first) false rest

/-- The label that an ASCII label without its mark stands for. -/
def decodeLabel (label : Text) : Option Text :=
  if !label.all isBasic then none
  else
    match label.reverse.span (· ≠ '-') with
    | (digits, _ :: basic) =>
      insertDigits (label.length + 1) basic.reverse 0 0x80 72 true digits.reverse
    | (digits, []) => insertDigits (label.length + 1) [] 0 0x80 72 true digits.reverse

/-! ## Host names -/

/-- Whether `c` separates the labels of a host name. -/
def isLabelEnd (c : Char) : Bool :=
  c == '.' || c == '\u3002' || c == '\uFF0E' || c == '\uFF61'

/-- A host name with a point between the labels and each label changed; what stands in front of an
at sign stays. -/
def mapLabels (f : Text → Option Text) (host : Text) : Option Text :=
  let change (t : Text) : Option Text :=
    let labels := Text.splitAt '.' (t.map fun c => if isLabelEnd c then '.' else c)
    (labels.mapM f).map (List.intercalate ['.'])
  match Text.splitAt '@' host with
  | user :: name :: _ => (change name).map fun t => user ++ '@' :: t
  | _ => change host

/-- A host name in ASCII. -/
def asciiHost (host : Text) : Text :=
  let encoded := mapLabels (fun label =>
    if label.all fun c => c.toNat < 0x7F then some label
    else some ("xn--".toList ++ encodeLabel label)) host
  encoded.getD host

/-- A host name for reading; one with a label that cannot be read stays as it is. -/
def readableHost (host : Text) : Text :=
  let decoded := mapLabels (fun label =>
    if "xn--".toList.isPrefixOf label then decodeLabel (Text.lower (label.drop 4))
    else some label) host
  decoded.getD host

end MarkTex.Markdown.Address
