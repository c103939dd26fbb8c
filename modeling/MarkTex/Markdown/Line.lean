import MarkTex.Text.Basic

/-!
# Lines

Blocks are read line by line. A line of a block that stands inside others is a view of the source
line: the part after the markers of the blocks around it, the number of characters of its
indentation, and the column at which the rest starts. Columns count tabs up to the next multiple of
four.
-/

namespace MarkTex.Markdown

/-- A line as the block that holds it sees it. -/
structure Line where
  /-- The line after the markers of enclosing blocks. -/
  text : Text
  /-- How many characters of the text count as its indentation. -/
  lead : Nat
  /-- The width of the indentation; it is negative in a line that only continues a paragraph. -/
  indent : Int
  /-- The column at which the text starts. -/
  base : Int := 0
  /-- Whether a line feed follows. -/
  ended : Bool := true
  deriving DecidableEq, Repr, Inhabited

/-- Whether `c` is a space or a tab. -/
def isSpaceOrTab (c : Char) : Bool :=
  c == ' ' || c == '\t'

/-- Whether `c` is white space at the ends of running text: that of every script but the control
characters that separate data. -/
def isSpace (c : Char) : Bool :=
  let n := c.toNat
  Text.isBlank c && !((0x1C ≤ n && n ≤ 0x1F) || n == 0x85)

/-- The text without the white space at its ends. -/
def trim (t : Text) : Text :=
  Text.trimBy isSpace t

/-- The column after the character `c` at the given column, where the text of the line starts at
column `base`. -/
def advance (base column : Int) (c : Char) : Int :=
  if c = '\t' then column + (4 - (column + base) % 4) else column + 1

/-- The number of spaces and tabs that a text starts with, and the column after them. -/
def measureSpace (base column : Int) : Text → Nat × Int
  | [] => (0, column)
  | c :: r =>
    if isSpaceOrTab c then
      let (count, last) := measureSpace base (advance base column c) r
      (count + 1, last)
    else (0, column)

namespace Line

/-- The text after the indentation. -/
def body (l : Line) : Text :=
  l.text.drop l.lead

/-- Whether there is nothing but indentation. -/
def isEmpty (l : Line) : Bool :=
  l.text.length ≤ l.lead

/-- The line of a source text. -/
def ofText (ended : Bool) (t : Text) : Line :=
  let (lead, indent) := measureSpace 0 0 t
  { text := t, lead := lead, indent := indent, ended := ended }

/-- Takes up to `width` columns of indentation off a text, of whose characters `lead` count as
indentation whatever they are. The part of a tab that is too much stays behind as spaces. -/
def outdent (base width : Int) (lead : Nat) (column : Int) : Text → Text
  | [] => List.replicate (column - width).toNat ' '
  | c :: r =>
    if column < width then
      if c = '\t' then outdent base width (lead - 1) (advance base column c) r
      else if c = ' ' || 0 < lead then outdent base width (lead - 1) (column + 1) r
      else c :: r
    else List.replicate (column - width).toNat ' ' ++ c :: r

/-- The text of a line without the given width of indentation. -/
def contents (l : Line) (width : Int) : Text :=
  outdent l.base width l.lead 0 l.text

/-- The text of a line without the given width of indentation, and what ends it. -/
def contentsEnded (l : Line) (width : Int) : Text :=
  l.contents width ++ if l.ended then ['\n'] else []

end Line

/-- The lines of a source text. Spaces and tabs at its very end are no line. -/
def sourceLines (source : Text) : List Line :=
  go (Text.splitAt '\n' source)
where
  /-- The lines of the parts between line feeds. -/
  go : List Text → List Line
    | [] => []
    | [last] => if last.all isSpaceOrTab then [] else [Line.ofText false last]
    | line :: next :: rest => Line.ofText true line :: go (next :: rest)

/-- The texts of lines without the given width of indentation, one under the other. -/
def joinContents (width : Int) (lines : List Line) : Text :=
  List.intercalate ['\n'] (lines.map (·.contents width))

/-- The texts of lines without the given width of indentation, with what ends each. -/
def joinContentsEnded (width : Int) (lines : List Line) : Text :=
  lines.flatMap (·.contentsEnded width)

end MarkTex.Markdown
