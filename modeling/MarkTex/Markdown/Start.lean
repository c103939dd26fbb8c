import MarkTex.Markdown.CharacterReference
import MarkTex.Markdown.Grid
import MarkTex.Markdown.Markup

/-!
# Starts of blocks

What the first line of a block looks like, for each kind of block, and which of them end a
paragraph, a quotation or an item that would otherwise go on.
-/

namespace MarkTex.Markdown

/-- What surrounds the blocks that are read: the column at which they start, the column of the list
around them, if there is one, and whether raw markup is recognised. -/
structure Surroundings where
  indent : Int := 0
  outer : Option Int := none
  markup : Bool := false
  deriving DecidableEq, Repr

/-- Whether a line is indented so far that it is code. -/
def Surroundings.isCode (s : Surroundings) (l : Line) : Bool :=
  s.indent + 4 ≤ l.indent

/-- Whether a line is indented less than the blocks that are read. -/
def Surroundings.isOutdented (s : Surroundings) (l : Line) : Bool :=
  l.indent < s.indent

/-! ## Single lines -/

/-- The line that opens a code block: its mark, how often it stands there, and what follows. -/
structure Fence where
  mark : Char
  length : Nat
  info : Text
  deriving DecidableEq, Repr

/-- The fence that a text is. -/
def readFence (t : Text) : Option Fence :=
  match t with
  | [] => none
  | mark :: _ =>
    let length := (t.takeWhile (· = mark)).length
    let info := t.drop length
    if (mark = '~' || mark = '\x60') && 3 ≤ length && !(mark = '\x60' && info.contains mark) then
      some ⟨mark, length, info⟩
    else none

/-- Whether a text closes a code block. -/
def Fence.isClosedBy (f : Fence) (t : Text) : Bool :=
  let length := (t.takeWhile (· = f.mark)).length
  f.length ≤ length && (t.drop length).all isSpaceOrTab

/-- Whether a text is a rule: three marks or more, with nothing but space between them. -/
def isRule (t : Text) : Bool :=
  match t with
  | [] => false
  | mark :: _ =>
    (mark = '*' || mark = '-' || mark = '_') && t.all (fun c => c = mark || isSpaceOrTab c) &&
      3 ≤ t.count mark

/-- The level of a heading and its text. -/
def readHeading (t : Text) : Option (Nat × Text) :=
  let level := (t.takeWhile (· = '#')).length
  let rest := t.drop level
  if 1 ≤ level && level ≤ 6 && (rest.isEmpty || (rest.head?.any isSpaceOrTab)) then
    some (level, rest)
  else none

/-- The text of a heading without the number signs that close it. -/
def headingText (rest : Text) : Text :=
  let shown := (rest.reverse.dropWhile isSpaceOrTab)
  let open_ := shown.dropWhile (· = '#')
  trim (if open_.head?.any isSpaceOrTab then open_.reverse else shown.reverse)

/-- The level that a line under a paragraph makes it a heading of. -/
def underlineLevel (t : Text) : Option Nat :=
  match t with
  | [] => none
  | mark :: _ =>
    if (mark = '=' || mark = '-') && (t.dropWhile (· = mark)).all isSpaceOrTab then
      some (if mark = '=' then 1 else 2)
    else none

/-! ## Markers of items -/

/-- The marker in front of an item: the number, if there is one, as it is written, and the sign. -/
structure Marker where
  number : Text
  sign : Char
  deriving DecidableEq, Repr

/-- The number of characters of a marker. -/
def Marker.width (m : Marker) : Nat :=
  m.number.length + 1

/-- The number that a list with this marker starts with, if it is in order. -/
def Marker.start (m : Marker) : Option Nat :=
  if m.number.isEmpty then none else some (decimalValue m.number)

/-- Whether a marker goes on with a list that starts with the other. -/
def Marker.continues (m first : Marker) : Bool :=
  m.sign = first.sign && m.number.isEmpty = first.number.isEmpty

/-- The most digits of the number of an item. -/
def mostMarkerDigits : Nat := 9

/-- The marker that a text starts with. -/
def readMarker (t : Text) : Option Marker :=
  let number := t.takeWhile Text.isAsciiDigit
  match t.drop number.length with
  | [] => none
  | sign :: rest =>
    let fits :=
      if number.isEmpty then sign = '-' || sign = '+' || sign = '*'
      else number.length ≤ mostMarkerDigits && (sign = '.' || sign = ')')
    if fits && (rest.isEmpty || rest.head?.any isSpaceOrTab) then some ⟨number, sign⟩ else none

/-- The marker that a line starts an item with. A line that is indented four columns more than the
list around, and less than its items, is none. -/
def Surroundings.readMarker (s : Surroundings) (l : Line) : Option Marker :=
  let stray := s.outer.any (· + 4 ≤ l.indent) && s.isOutdented l
  if s.isCode l || stray then none else Markdown.readMarker l.body

/-- Whether a line starts a list and thereby ends a paragraph: an item in the paragraph's own
surroundings must not be empty, and its number must be one. -/
def Surroundings.listEndsParagraph (s : Surroundings) (l : Line) : Bool :=
  match s.readMarker l with
  | none => false
  | some m =>
    s.isOutdented l ||
      ((m.start.getD 1 = 1) && (l.body.drop m.width).any (!isSpaceOrTab ·))

/-! ## Tables -/

/-- The alignments and the header cells of the table that starts with the line `l`, which the lines
of `rest` follow. -/
def Surroundings.readTableStart (s : Surroundings) (l : Line) (rest : List Line) :
    Option (List (Option Table.Alignment) × List Text) :=
  match rest with
  | [] => none
  | dashes :: _ =>
    if s.isOutdented dashes || s.isCode dashes || s.isCode l || !l.body.contains '|' then none
    else
      match readDashRow dashes.body with
      | none => none
      | some alignments =>
        let header := readCells l.body
        if header.isEmpty || header.length ≠ alignments.length then none
        else some (alignments, header)

/-! ## Ends of blocks -/

/-- Whether a line starts a block that ends an item. -/
def endsItem (l : Line) : Bool :=
  (readFence l.body).isSome || l.body.head? = some '>' || isRule l.body

/-- Whether a line starts raw markup or a heading. -/
def Surroundings.startsOther (s : Surroundings) (l : Line) : Bool :=
  (s.markup && (Markup.start? l.body).any (·.interrupts)) || (readHeading l.body).isSome

/-- Whether a line starts a block that ends the item before it. -/
def Surroundings.endsItem (s : Surroundings) (l : Line) : Bool :=
  !s.isCode l && Markdown.endsItem l

/-- Whether a line starts a block that ends a quotation or a table. -/
def Surroundings.endsQuote (s : Surroundings) (l : Line) : Bool :=
  !s.isCode l && (Markdown.endsItem l || (s.readMarker l).isSome || s.startsOther l)

/-- Whether a line starts a block that ends a paragraph. -/
def Surroundings.endsParagraph (s : Surroundings) (l : Line) (rest : List Line) : Bool :=
  (s.readTableStart l rest).isSome ||
    (!s.isCode l && (Markdown.endsItem l || s.listEndsParagraph l || s.startsOther l))

/-- Whether a line starts a block that ends a definition. -/
def Surroundings.endsDefinition (s : Surroundings) (l : Line) (rest : List Line) : Bool :=
  (s.readTableStart l rest).isSome ||
    (!s.isCode l && (Markdown.endsItem l || (s.readMarker l).isSome || s.startsOther l))

end MarkTex.Markdown
