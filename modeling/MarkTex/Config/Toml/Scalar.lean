import MarkTex.Config.Fault

/-!
# Texts, numbers and times of TOML

Texts stand in single or double quotation marks, one or three of them; in double ones a backslash
escapes. Numbers may have single underscores between digits. Times follow days after a `T` or a
space. Each reader gives what it read and the rest of the text.
-/

namespace MarkTex.Config.Toml

/-- Whether `c` may not stand in texts and comments, a line feed included. -/
def isControl (c : Char) : Bool :=
  (c.toNat < 0x20 && c != '\t') || c.toNat == 0x7F

/-! ## Texts -/

/-- Where a text in double quotation marks stands with its escapes. -/
inductive Escape where
  /-- No escape is open. -/
  | none
  /-- A backslash was read. -/
  | backslash
  /-- So many hexadecimal digits are still to come, and those read have this value. -/
  | digits (left value : Nat)
  /-- A backslash and blanks were read; the line has to end. -/
  | lineEnd
  /-- A backslash ended a line; blanks and line ends are left out. -/
  | blanks
  deriving DecidableEq

/-- The character that a letter after a backslash stands for. -/
def escaped? : Char → Option Char
  | 'b' => some '\x08'
  | 't' => some '\t'
  | 'n' => some '\n'
  | 'f' => some '\x0c'
  | 'r' => some '\r'
  | '"' => some '"'
  | '\\' => some '\\'
  | _ => none

/-- The character with a number, unless that is half of a surrogate pair or too large. -/
def scalar? (n : Nat) : Option Char :=
  if h : n.isValidChar then some (Char.ofNatAux n h) else none

/-- What character `c` adds to a text where no escape is open, and where the text then stands.
`long` texts go over several lines. -/
def plainStep (long : Bool) (c : Char) : Option (Text × Escape) :=
  if c = '\\' then some ([], .backslash)
  else if isControl c && !(long && c == '\n') then none
  else some ([c], .none)

/-- What character `c` adds to a text, and where the text then stands. -/
def Escape.step (long : Bool) (escape : Escape) (c : Char) : Option (Text × Escape) :=
  let blank := c = ' ' || c = '\t'
  match escape with
  | .none => plainStep long c
  | .backslash =>
    if c = 'u' then some ([], .digits 4 0)
    else if c = 'U' then some ([], .digits 8 0)
    else if long && blank then some ([], .lineEnd)
    else if long && c = '\n' then some ([], .blanks)
    else (escaped? c).map fun x => ([x], .none)
  | .digits left value =>
    match Text.hexValue? c with
    | .none => .none
    | some d =>
      if left ≤ 1 then (scalar? (16 * value + d)).map fun x => ([x], .none)
      else some ([], .digits (left - 1) (16 * value + d))
  | .lineEnd =>
    if blank then some ([], .lineEnd) else if c = '\n' then some ([], .blanks) else .none
  | .blanks => if blank || c = '\n' then some ([], .blanks) else plainStep long c

/-- A text up to its closing quotation marks. -/
def readQuoted (long : Bool) (escape : Escape) : Text → Option (Text × Text)
  | [] => none
  | c :: r =>
    if c = '"' && (escape = .none || escape = .blanks) && (!long || ['"', '"'].isPrefixOf r) then
      some ([], if long then r.drop 2 else r)
    else
      match escape.step long c with
      | none => none
      | some (added, escape) =>
        (readQuoted long escape r).map fun (t, rest) => (added ++ t, rest)

/-- A text up to its closing single quotation mark. -/
def readLiteral (t : Text) : Option (Text × Text) :=
  match Text.cutAt ['\''] t with
  | some (body, rest) => if body.any isControl then none else some (body, rest)
  | none => none

/-- A text up to its three closing single quotation marks. -/
def readLongLiteral (t : Text) : Option (Text × Text) :=
  match Text.cutAt ['\'', '\'', '\''] t with
  | some (body, rest) =>
    if body.any fun c => isControl c && c != '\n' then none else some (body, rest)
  | none => none

/-- The text after a first line feed. -/
def dropLineFeed (t : Text) : Text :=
  match t with
  | '\n' :: r => r
  | t => t

/-- A long text with the quotation marks, two at most, that follow its closing ones. -/
def withTail (mark : Char) (read : Text × Text) : Text × Text :=
  let tail := (read.2.takeWhile (· = mark)).take 2
  (read.1 ++ tail, read.2.drop tail.length)

/-- The text that starts at a quotation mark. -/
def readText (t : Text) : Option (Text × Text) :=
  match t with
  | '"' :: '"' :: '"' :: r => (readQuoted true .none (dropLineFeed r)).map (withTail '"')
  | '"' :: r => readQuoted false .none r
  | '\'' :: '\'' :: '\'' :: r => (readLongLiteral (dropLineFeed r)).map (withTail '\'')
  | '\'' :: r => readLiteral r
  | _ => none

/-! ## Numbers -/

/-- The digits that a text goes on with, each after at most one underscore, and the rest. -/
def moreDigits (isDigit : Char → Bool) : Text → Text × Text
  | '_' :: c :: r =>
    if isDigit c then
      let (digits, rest) := moreDigits isDigit r
      ('_' :: c :: digits, rest)
    else ([], '_' :: c :: r)
  | c :: r =>
    if isDigit c then
      let (digits, rest) := moreDigits isDigit r
      (c :: digits, rest)
    else ([], c :: r)
  | [] => ([], [])

/-- The digits that a text starts with, with single underscores between them, and the rest. -/
def takeDigits (isDigit : Char → Bool) (t : Text) : Text × Text :=
  match t with
  | '_' :: r => ([], '_' :: r)
  | t => moreDigits isDigit t

/-- Whether `c` is a digit in base `base`. -/
def isDigitIn (base : Nat) (c : Char) : Bool :=
  match Text.hexValue? c with
  | some d => d < base
  | none => false

/-- The number that digits in base `base` stand for. -/
def numberIn (base : Nat) (digits : Text) : Nat :=
  (digits.filterMap Text.hexValue?).foldl (fun n d => base * n + d) 0

/-- The number after the mark of a base. -/
def readBase (base : Nat) (t : Text) : Option (Value × Text) :=
  match takeDigits (isDigitIn base) t with
  | ([], _) => none
  | (digits, rest) => some (.int (numberIn base digits), rest)

/-- The number in base two, eight or sixteen that a text starts with. -/
def readMarked (t : Text) : Option (Value × Text) :=
  match t with
  | '0' :: 'x' :: r => readBase 16 r
  | '0' :: 'o' :: r => readBase 8 r
  | '0' :: 'b' :: r => readBase 2 r
  | _ => none

/-- The sign that a text starts with, if there is one, and the rest. -/
def cutSign (t : Text) : Text × Text :=
  match t with
  | '+' :: r => (['+'], r)
  | '-' :: r => (['-'], r)
  | t => ([], t)

/-- The digits after a point, with the point, and the rest. -/
def cutFraction (t : Text) : Text × Text :=
  match t with
  | '.' :: r =>
    match takeDigits Text.isAsciiDigit r with
    | ([], _) => ([], t)
    | (digits, rest) => ('.' :: digits, rest)
  | t => ([], t)

/-- The exponent, with its mark, and the rest. -/
def cutExponent (t : Text) : Text × Text :=
  match t with
  | [] => ([], [])
  | c :: r =>
    if c = 'e' || c = 'E' then
      let (sign, r) := cutSign r
      match takeDigits Text.isAsciiDigit r with
      | ([], _) => ([], t)
      | (digits, rest) => (c :: sign ++ digits, rest)
    else ([], t)

/-- The decimal number that a text starts with: without a point or exponent it is an integer. -/
def readDecimal (t : Text) : Except Fault (Value × Text) :=
  let (sign, r) := cutSign t
  let (whole, r) :=
    match r with
    | '0' :: r => (['0'], r)
    | r => takeDigits Text.isAsciiDigit r
  if whole.isEmpty then .error .malformed
  else
    let (fraction, r) := cutFraction r
    let (exponent, r) := cutExponent r
    if fraction.isEmpty && exponent.isEmpty then
      match Number.readInt (sign ++ whole) with
      | .ok i => .ok (.int i, r)
      | .error cause => .error (.numeral cause)
    else
      match Number.readFloat? (sign ++ whole ++ fraction ++ exponent) with
      | some x => .ok (.float x, r)
      | none => .error .malformed

/-- The words that are doubles. -/
def floatWords : List (Text × Float) :=
  [("inf".toList, 1.0 / 0.0), ("+inf".toList, 1.0 / 0.0), ("-inf".toList, -1.0 / 0.0),
    ("nan".toList, 0.0 / 0.0), ("+nan".toList, 0.0 / 0.0), ("-nan".toList, 0.0 / 0.0)]

/-! ## Times -/

/-- The number that exactly `count` digits stand for. -/
def readFixed (count : Nat) (t : Text) : Option (Nat × Text) :=
  let digits := t.take count
  if digits.length = count && digits.all Text.isAsciiDigit then
    some (numberIn 10 digits, t.drop count)
  else none

/-- Two digits for a number from `low` to `high`. -/
def readTwo (low high : Nat) (t : Text) : Option (Nat × Text) :=
  match readFixed 2 t with
  | some (n, r) => if low ≤ n && n ≤ high then some (n, r) else none
  | none => none

/-- The text after character `c`. -/
def dropMark (c : Char) (t : Text) : Option Text :=
  match t with
  | [] => none
  | x :: r => if x = c then some r else none

/-- The microseconds that the digits after a point stand for. -/
def microseconds (digits : Text) : Nat :=
  numberIn 10 ((digits ++ List.replicate 6 '0').take 6)

/-- A time of day. -/
def readClock (t : Text) : Option (Clock × Text) := do
  let (hour, t) ← readTwo 0 23 t
  let t ← dropMark ':' t
  let (minute, t) ← readTwo 0 59 t
  let t ← dropMark ':' t
  let (second, t) ← readTwo 0 59 t
  match t with
  | '.' :: r =>
    match r.span Text.isAsciiDigit with
    | ([], _) => return (⟨hour, minute, second, 0⟩, t)
    | (digits, rest) => return (⟨hour, minute, second, microseconds digits⟩, rest)
  | t => return (⟨hour, minute, second, 0⟩, t)

/-- A distance from universal time, in seconds, after its sign. -/
def readDistance (t : Text) : Option (Int × Text) := do
  let (hours, t) ← readTwo 0 23 t
  let t ← dropMark ':' t
  let (minutes, t) ← readTwo 0 59 t
  return (3600 * hours + 60 * minutes, t)

/-- The distance from universal time that may follow a time. -/
def readOffset (t : Text) : Option Int × Text :=
  let signed (r : Text) (sign : Int) : Option Int × Text :=
    match readDistance r with
    | some (seconds, rest) => (some (sign * seconds), rest)
    | none => (none, t)
  match t with
  | 'Z' :: r => (some 0, r)
  | 'z' :: r => (some 0, r)
  | '+' :: r => signed r 1
  | '-' :: r => signed r (-1)
  | t => (none, t)

/-- A year, a month and a day of the month. -/
def readDay (t : Text) : Option ((Nat × Nat × Nat) × Text) := do
  let (year, t) ← readFixed 4 t
  let t ← dropMark '-' t
  let (month, t) ← readTwo 1 12 t
  let t ← dropMark '-' t
  let (date, t) ← readTwo 1 31 t
  return ((year, month, date), t)

/-- The time after a day. -/
def readTimeOfDay (t : Text) : Option (Clock × Text) :=
  match t with
  | 'T' :: r => readClock r
  | 't' :: r => readClock r
  | ' ' :: r => readClock r
  | _ => none

/-- A point in time, `none` if the text does not start with one. -/
def readMoment (t : Text) : Option (Except CalendarFault Moment × Text) :=
  match readDay t with
  | some ((year, month, date), r) =>
    match readTimeOfDay r with
    | some (clock, r) =>
      let (offset, r) := readOffset r
      some (stamp year month date clock offset, r)
    | none => some (day year month date, r)
  | none => (readClock t).map fun (clock, r) => (.ok (.time clock), r)

/-- A word, point in time or number. -/
def readBare (t : Text) : Except Fault (Value × Text) :=
  if "true".toList.isPrefixOf t then .ok (.bool true, t.drop 4)
  else if "false".toList.isPrefixOf t then .ok (.bool false, t.drop 5)
  else
    match readMoment t with
    | some (.ok moment, r) => .ok (.moment moment, r)
    | some (.error _, _) => .error .malformed
    | none =>
      match readMarked t with
      | some found => .ok found
      | none =>
        match floatWords.find? fun (word, _) => word.isPrefixOf t with
        | some (word, x) => .ok (.float x, t.drop word.length)
        | none => readDecimal t

end MarkTex.Config.Toml
