/-!
# Text

A text is its list of characters. This module holds what the other modules cut, join, compare
and measure texts with. Blank characters are those of every script, and so are the characters that
end a line. The unified ideographs from U+4E00 to U+9FA5 decide whether a document needs CJK fonts,
and they take two cells where any other character takes one.
-/

namespace MarkTex

/-- A text, as its characters from first to last. -/
abbrev Text := List Char

namespace Text

/-! ## Character classes -/

/-- Whether one of some ranges holds code point `n`. A class of characters is kept as a list of
ranges, each given by its first and last code point. -/
def inRanges (ranges : List (Nat × Nat)) (n : Nat) : Bool :=
  ranges.any fun (first, last) => first ≤ n && n ≤ last

/-- Whether `c` is white space in some script. -/
def isBlank (c : Char) : Bool :=
  let n := c.toNat
  (0x09 ≤ n && n ≤ 0x0D) || (0x1C ≤ n && n ≤ 0x20) || n == 0x85 || n == 0xA0 || n == 0x1680 ||
    (0x2000 ≤ n && n ≤ 0x200A) || n == 0x2028 || n == 0x2029 || n == 0x202F || n == 0x205F ||
    n == 0x3000

/-- Whether `c` ends a line in some script. -/
def isLineEnd (c : Char) : Bool :=
  let n := c.toNat
  (0x0A ≤ n && n ≤ 0x0D) || (0x1C ≤ n && n ≤ 0x1E) || n == 0x85 || n == 0x2028 || n == 0x2029

/-- Whether `c` is an ASCII letter or digit. -/
def isAsciiAlphanum (c : Char) : Bool :=
  ('a' ≤ c && c ≤ 'z') || ('A' ≤ c && c ≤ 'Z') || ('0' ≤ c && c ≤ '9')

/-- Whether `c` is an ASCII letter. -/
def isAsciiLetter (c : Char) : Bool :=
  ('a' ≤ c && c ≤ 'z') || ('A' ≤ c && c ≤ 'Z')

/-- Whether `c` is an ASCII digit. -/
def isAsciiDigit (c : Char) : Bool :=
  '0' ≤ c && c ≤ '9'

/-! ## Ideographs and display width -/

/-- Whether `c` is a unified ideograph. -/
def isIdeograph (c : Char) : Bool :=
  0x4E00 ≤ c.toNat && c.toNat ≤ 0x9FA5

/-- Whether the text holds a unified ideograph. -/
def hasIdeograph (t : Text) : Bool :=
  t.any isIdeograph

/-- The number of cells that a character takes. -/
def cells (c : Char) : Nat :=
  if isIdeograph c then 2 else 1

/-- The number of cells that a text takes. -/
def width (t : Text) : Nat :=
  t.foldr (fun c n => cells c + n) 0

/-! ## Ends of a text -/

/-- The text from its first character that fails `p` to its last. -/
def trimBy (p : Char → Bool) (t : Text) : Text :=
  ((t.dropWhile p).reverse.dropWhile p).reverse

/-- The text without the white space at its ends. -/
def strip (t : Text) : Text :=
  trimBy isBlank t

/-- Whether the text ends with `s`. -/
def endsWith (t s : Text) : Bool :=
  s.isSuffixOf t

/-! ## Searching and replacing -/

/-- The texts before and after the first occurrence of `s`. -/
def cutAt (s : Text) : Text → Option (Text × Text)
  | [] => if s.isEmpty then some ([], []) else none
  | c :: r =>
    if s.isPrefixOf (c :: r) then some ([], (c :: r).drop s.length)
    else (cutAt s r).map fun (before, after) => (c :: before, after)

/-- Whether `s` occurs in the text. -/
def has (t s : Text) : Bool :=
  (cutAt s t).isSome

/-- The text with the first occurrence of `s` replaced by `r`. -/
def replaceFirst (s r t : Text) : Text :=
  match cutAt s t with
  | some (before, after) => before ++ r ++ after
  | none => t

/-- The text with the character `c` replaced by `r` wherever it occurs. -/
def replaceChar (c : Char) (r t : Text) : Text :=
  t.flatMap fun x => if x = c then r else [x]

/-! ## Cutting -/

/-- The parts between the occurrences of `c`; there is one part more than occurrences. -/
def splitAt (c : Char) : Text → List Text
  | [] => [[]]
  | x :: r =>
    if x = c then [] :: splitAt c r
    else
      match splitAt c r with
      | [] => [[x]]
      | part :: parts => (x :: part) :: parts

/-- The lines of a text, without what ends them; a text that ends with a line end has no empty
last line. `line` is the line read so far, last character first. -/
def linesFrom (line : Text) : Text → List Text
  | [] => if line.isEmpty then [] else [line.reverse]
  | '\r' :: '\n' :: r => line.reverse :: linesFrom [] r
  | c :: r => if isLineEnd c then line.reverse :: linesFrom [] r else linesFrom (c :: line) r

/-- The lines of a text, without what ends them. -/
def lines (t : Text) : List Text :=
  linesFrom [] t

/-- The words of a text: its longest runs without white space. `word` is the word read so far,
last character first. -/
def wordsFrom (word : Text) : Text → List Text
  | [] => if word.isEmpty then [] else [word.reverse]
  | c :: r =>
    if isBlank c then
      if word.isEmpty then wordsFrom [] r else word.reverse :: wordsFrom [] r
    else wordsFrom (c :: word) r

/-- The words of a text: its longest runs without white space. -/
def words (t : Text) : List Text :=
  wordsFrom [] t

/-- The text with each carriage return, alone or before a line feed, read as one line feed. -/
def unifyLineEnds : Text → Text
  | [] => []
  | '\r' :: '\n' :: r => '\n' :: unifyLineEnds r
  | '\r' :: r => '\n' :: unifyLineEnds r
  | c :: r => c :: unifyLineEnds r

/-! ## Numbers and padding -/

/-- A digit of base up to sixteen, in small letters. -/
def digitChar (n : Nat) : Char :=
  if n < 10 then Char.ofNat (48 + n) else Char.ofNat (87 + n)

/-- The last `width` digits of `n` in base sixteen. -/
def hex (width n : Nat) : Text :=
  match width with
  | 0 => []
  | w + 1 => hex w (n / 16) ++ [digitChar (n % 16)]

/-- The text with spaces after it, up to `width` characters. -/
def padRight (width : Nat) (t : Text) : Text :=
  t ++ List.replicate (width - t.length) ' '

/-- The text with spaces before it, up to `width` characters. -/
def padLeft (width : Nat) (t : Text) : Text :=
  List.replicate (width - t.length) ' ' ++ t

/-- The text with zeros before it, up to `width` characters. -/
def padZeros (width : Nat) (t : Text) : Text :=
  List.replicate (width - t.length) '0' ++ t

end Text

end MarkTex
