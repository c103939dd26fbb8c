import MarkTex.Config.Fault

/-!
# Reading JSON

A JSON text is one value with white space around it. Texts hold no control characters. Integers may
have any size; a number with a point or an exponent is a double, and so are `NaN`, `Infinity` and
`-Infinity`. A key that comes again gives its first entry a new value.
-/

namespace MarkTex.Config.Json

/-- Whether `c` may stand around values. -/
def isSpace (c : Char) : Bool :=
  c == ' ' || c == '\t' || c == '\n' || c == '\r'

/-- The text from its first character that is not white space. -/
def skipSpace (t : Text) : Text :=
  t.dropWhile isSpace

/-! ## Texts -/

/-- The character that an escape of one letter stands for. -/
def escaped? : Char → Option Char
  | '"' => some '"'
  | '\\' => some '\\'
  | '/' => some '/'
  | 'b' => some '\x08'
  | 'f' => some '\x0c'
  | 'n' => some '\n'
  | 'r' => some '\r'
  | 't' => some '\t'
  | _ => none

/-- Whether a number is the first half of a surrogate pair. -/
def isHighHalf (n : Nat) : Bool :=
  0xD800 ≤ n && n ≤ 0xDBFF

/-- Whether a number is the second half of a surrogate pair. -/
def isLowHalf (n : Nat) : Bool :=
  0xDC00 ≤ n && n ≤ 0xDFFF

/-- The character of a code point, U+FFFD if it is half of a surrogate pair. -/
def character (n : Nat) : Char :=
  if isHighHalf n || isLowHalf n then '\uFFFD' else Char.ofNat n

/-- The character that four hexadecimal digits stand for, together with those of a second escape of
the kind if the two are a surrogate pair, and whether they are. -/
def unicode? (first second : List Char) : Option (Char × Bool) :=
  (Text.hexNumber? first).map fun n =>
    match Text.hexNumber? second with
    | some m =>
      if isHighHalf n && isLowHalf m && second.length = 4 then
        (Char.ofNat (0x10000 + (n - 0xD800) * 0x400 + (m - 0xDC00)), true)
      else (character n, false)
    | none => (character n, false)

/-- The contents of a text whose opening quotation mark was read, and what follows it. -/
def readText : Text → Option (Text × Text)
  | '"' :: r => some ([], r)
  | '\\' :: 'u' :: a :: b :: c :: d :: '\\' :: 'u' :: e :: f :: g :: h :: r =>
    match unicode? [a, b, c, d] [e, f, g, h] with
    | none => none
    | some (x, true) => (readText r).map fun (t, rest) => (x :: t, rest)
    | some (x, false) =>
      (readText ('\\' :: 'u' :: e :: f :: g :: h :: r)).map fun (t, rest) => (x :: t, rest)
  | '\\' :: 'u' :: a :: b :: c :: d :: r =>
    match unicode? [a, b, c, d] [] with
    | none => none
    | some (x, _) => (readText r).map fun (t, rest) => (x :: t, rest)
  | '\\' :: c :: r =>
    match escaped? c with
    | none => none
    | some x => (readText r).map fun (t, rest) => (x :: t, rest)
  | c :: r =>
    if c.toNat < 0x20 || c = '\\' then none
    else (readText r).map fun (t, rest) => (c :: t, rest)
  | [] => none

/-! ## Numbers -/

/-- The digits that a text starts with, and the rest. -/
def cutDigits (t : Text) : Text × Text :=
  t.span Text.isAsciiDigit

/-- The whole part of a number without sign, and the rest: it starts with a zero only if it is
zero. -/
def cutWhole (t : Text) : Text × Text :=
  match t with
  | '0' :: r => (['0'], r)
  | t => cutDigits t

/-- The point and the digits after it, if there are any, and the rest. -/
def cutFraction (t : Text) : Text × Text :=
  match t with
  | '.' :: r =>
    match cutDigits r with
    | ([], _) => ([], t)
    | (digits, rest) => ('.' :: digits, rest)
  | t => ([], t)

/-- The sign that a text starts with, if there is one, and the rest. -/
def cutSign (t : Text) : Text × Text :=
  match t with
  | '+' :: r => (['+'], r)
  | '-' :: r => (['-'], r)
  | t => ([], t)

/-- The exponent, if there is one, and the rest. -/
def cutExponent (t : Text) : Text × Text :=
  match t with
  | c :: r =>
    if c = 'e' || c = 'E' then
      let (sign, r) := cutSign r
      match cutDigits r with
      | ([], _) => ([], t)
      | (digits, rest) => (c :: sign ++ digits, rest)
    else ([], t)
  | [] => ([], [])

/-- The number that a text starts with, and the rest. -/
def readNumber (t : Text) : Except Fault (Value × Text) :=
  let (sign, r) :=
    match t with
    | '-' :: r => (['-'], r)
    | t => ([], t)
  match cutWhole r with
  | ([], _) => .error .malformed
  | (whole, r) =>
    let (fraction, r) := cutFraction r
    let (exponent, r) := cutExponent r
    if fraction.isEmpty && exponent.isEmpty then
      match Number.readInt (sign ++ whole) with
      | .ok i => .ok (.int i, r)
      | .error cause => .error (.numeral cause)
    else
      match Number.readFloat? (sign ++ whole ++ fraction ++ exponent) with
      | some x => .ok (.float x, r)
      | none => .error .malformed

/-! ## Values -/

/-- The words that are values. -/
def words : List (Text × Value) :=
  [("null".toList, .null), ("true".toList, .bool true), ("false".toList, .bool false),
    ("NaN".toList, .float (0.0 / 0.0)), ("Infinity".toList, .float (1.0 / 0.0)),
    ("-Infinity".toList, .float (-1.0 / 0.0))]

/-- A number or word, and what follows it. -/
def readScalar (t : Text) : Except Fault (Value × Text) :=
  match words.find? fun (word, _) => word.isPrefixOf t with
  | some (word, value) => .ok (value, t.drop word.length)
  | none => readNumber t

/-- The end of the message about too many collections inside each other, given what the innermost
one is. -/
def nestingActivity (kind : String) : String :=
  s!" while decoding a JSON {kind} from a unicode string"

mutual

/-- The value that a text starts with after white space, and what follows it. `fuel` bounds the
number of steps, and `room` is that for collections. -/
def readValue (fuel room : Nat) (t : Text) : Except Fault (Value × Text) :=
  match fuel with
  | 0 => .error .malformed
  | fuel + 1 =>
    match skipSpace t with
    | '"' :: r =>
      match readText r with
      | some (s, rest) => .ok (.str (String.ofList s), rest)
      | none => .error .malformed
    | '[' :: r => do
      let room ← takeRoom room 1 (nestingActivity "array")
      match skipSpace r with
      | ']' :: rest => return (.list [], rest)
      | r =>
        let (items, rest) ← readItems fuel room r
        return (.list items, rest)
    | '{' :: r => do
      let room ← takeRoom room 1 (nestingActivity "object")
      match skipSpace r with
      | '}' :: rest => return (.map [], rest)
      | r =>
        let (entries, rest) ← readEntries fuel room [] r
        return (.map entries, rest)
    | r => readScalar r

/-- The items of a list up to its closing bracket, of which there is at least one. -/
def readItems (fuel room : Nat) (t : Text) : Except Fault (List Value × Text) :=
  match fuel with
  | 0 => .error .malformed
  | fuel + 1 =>
    match readValue fuel room t with
    | .error fault => .error fault
    | .ok (item, r) =>
      match skipSpace r with
      | ']' :: rest => .ok ([item], rest)
      | ',' :: r =>
        match readItems fuel room r with
        | .ok (items, rest) => .ok (item :: items, rest)
        | .error fault => .error fault
      | _ => .error .malformed

/-- The entries of a mapping up to its closing brace, of which there is at least one more than those
in `entries`. -/
def readEntries (fuel room : Nat) (entries : List (Value × Value)) (t : Text) :
    Except Fault (List (Value × Value) × Text) :=
  match fuel with
  | 0 => .error .malformed
  | fuel + 1 =>
    match skipSpace t with
    | '"' :: r =>
      match readText r with
      | none => .error .malformed
      | some (key, r) =>
        match skipSpace r with
        | ':' :: r =>
          match readValue fuel room r with
          | .error fault => .error fault
          | .ok (value, r) =>
            let entries := Value.put (.str (String.ofList key)) value entries
            match skipSpace r with
            | '}' :: rest => .ok (entries, rest)
            | ',' :: r => readEntries fuel room entries r
            | _ => .error .malformed
        | _ => .error .malformed
    | _ => .error .malformed

end

/-- The value that a whole text is. -/
def read (t : Text) : Except Fault Value :=
  match readValue (2 * t.length + 1) nestingRoom t with
  | .error fault => .error fault
  | .ok (value, rest) => if (skipSpace rest).isEmpty then .ok value else .error .malformed

end MarkTex.Config.Json
