import MarkTex.Text.Basic

/-!
# Places in a YAML text

Reading YAML has to know the line and column of each character: indentation is a column, and a short
key has to end on the line that it starts on. A cursor is the rest of a text together with the place
where it starts.
-/

namespace MarkTex.Config.Yaml

/-- Whether `c` ends a line. -/
def isBreak (c : Char) : Bool :=
  c == '\n' || c == '\u0085' || c == '\u2028' || c == '\u2029'

/-- Whether what comes next sets tokens apart: the end of the text, a blank or a line end. -/
def isGap (c : Option Char) : Bool :=
  match c with
  | none => true
  | some c => c == ' ' || c == '\t' || isBreak c

/-- Whether what comes next ends the line. -/
def isLineEnd (c : Option Char) : Bool :=
  match c with
  | none => true
  | some c => isBreak c

/-- The rest of a text, and the place where it starts. -/
structure Cursor where
  rest : Text
  index : Nat := 0
  line : Nat := 0
  column : Nat := 0

namespace Cursor

/-- The character that is `k` places ahead. -/
def peek (cursor : Cursor) (k : Nat) : Option Char :=
  cursor.rest[k]?

/-- Whether character `c` comes next. -/
def isAt (cursor : Cursor) (c : Char) : Bool :=
  cursor.peek 0 == some c

/-- The cursor after one character. A byte order mark takes no column. -/
def next (cursor : Cursor) : Cursor :=
  match cursor.rest with
  | [] => cursor
  | c :: r =>
    if isBreak c then ⟨r, cursor.index + 1, cursor.line + 1, 0⟩
    else if c = '\uFEFF' then ⟨r, cursor.index + 1, cursor.line, cursor.column⟩
    else ⟨r, cursor.index + 1, cursor.line, cursor.column + 1⟩

/-- The cursor after `n` characters. -/
def advance (n : Nat) (cursor : Cursor) : Cursor :=
  match n with
  | 0 => cursor
  | n + 1 => advance n cursor.next

/-- The characters ahead that satisfy `p`, and the cursor after them. -/
def span (p : Char → Bool) (cursor : Cursor) : Text × Cursor :=
  let run := cursor.rest.takeWhile p
  (run, cursor.advance run.length)

/-- The cursor after the spaces ahead. -/
def skipSpaces (cursor : Cursor) : Cursor :=
  (cursor.span (· == ' ')).2

/-- The cursor at the end of its line, if a comment comes next. -/
def skipComment (cursor : Cursor) : Cursor :=
  if cursor.isAt '#' then (cursor.span fun c => !isBreak c).2 else cursor

/-- The line end that comes next, as it is kept in texts, and the cursor after it. -/
def takeBreak (cursor : Cursor) : Option (Char × Cursor) :=
  match cursor.rest with
  | [] => none
  | c :: _ =>
    if c == '\n' || c == '\u0085' then some ('\n', cursor.next)
    else if isBreak c then some (c, cursor.next)
    else none

/-- The cursor after blanks and a comment, if nothing else stands on the line. -/
def finishLine (cursor : Cursor) : Option Cursor :=
  let cursor := cursor.skipSpaces.skipComment
  match cursor.takeBreak with
  | some (_, cursor) => some cursor
  | none => if cursor.rest.isEmpty then some cursor else none

/-- Whether three times the character `c` comes next, and then a gap. -/
def atMarker (c : Char) (cursor : Cursor) : Bool :=
  [c, c, c].isPrefixOf cursor.rest && isGap (cursor.peek 3)

/-- Whether the start or end of a document comes next. -/
def atDocument (cursor : Cursor) : Bool :=
  cursor.atMarker '-' || cursor.atMarker '.'

end Cursor

end MarkTex.Config.Yaml
