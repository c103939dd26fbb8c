import MarkTex.WordCount

/-!
# Reports of counts

Counts are shown as a table of three rows, either plain, with columns of fixed least widths, or in a
box as wide as its cells. A box that is wider than a terminal takes from its widest columns, whose
cells are then cut short. Boxes are for terminals only.
-/

namespace MarkTex.Report

/-- A row of a report. -/
structure Row where
  label : String
  words : Int
  chars : Int
  deriving DecidableEq, Repr

/-- The rows of the counts of words and characters in the body, in the tables and in all. -/
def rows (body tables total : Int × Int) : List Row :=
  [⟨"Body", body.1, body.2⟩, ⟨"Tables", tables.1, tables.2⟩, ⟨"Total", total.1, total.2⟩]

/-- The rows of some counts. -/
def ofCounts (counts : WordCount.Counts) : List Row :=
  rows (counts.bodyWords, counts.bodyChars) (counts.tableWords, counts.tableChars)
    (counts.totalWords, counts.totalChars)

/-- The cells of a row. -/
def Row.cells (row : Row) : Text × Text × Text :=
  (row.label.toList, (toString row.words).toList, (toString row.chars).toList)

/-- The names of the columns. -/
def header : Text × Text × Text :=
  ("Section".toList, "Words".toList, "Characters".toList)

/-! ## Plain reports -/

/-- A line of a plain report. -/
def plainLine (cells : Text × Text × Text) : Text :=
  Text.padRight 8 cells.1 ++ ' ' :: Text.padLeft 8 cells.2.1 ++ ' ' :: Text.padLeft 12 cells.2.2 ++
    ['\n']

/-- A report without lines around its cells. -/
def plain (rows : List Row) : Text :=
  (header :: rows.map Row.cells).flatMap plainLine

/-! ## Boxes -/

/-- The title of a box. -/
def title : Text := "Word count".toList

/-- The most characters that the columns of a box take, with a space on both sides of each cell. A
terminal has 80, and four of them are bars. -/
def mostWidth : Nat := 76

/-- Half of a number of characters; a half of one goes to the even neighbour. -/
def half (n : Nat) : Nat :=
  if n % 4 = 3 then n / 2 + 1 else n / 2

/-- The widths after the widest ones, of which there are `count`, gave `excess` characters, each of
them `most` at most. -/
def takeFrom (widest most excess count : Nat) : List Nat → List Nat
  | [] => []
  | w :: ws =>
    if w = widest then
      let taken := min most (if count = 2 then half excess else excess)
      (w - taken) :: takeFrom widest most (excess - taken) (count - 1) ws
    else w :: takeFrom widest most excess count ws

/-- The widths of columns after the widest ones gave what they have more than all of them may take.
They give down to the next width, and then together with the columns of that one. `fuel` bounds the
number of steps. -/
def collapse (fuel : Nat) (ws : List Nat) : List Nat :=
  match fuel with
  | 0 => ws
  | fuel + 1 =>
    let excess := ws.foldr (· + ·) 0 - mostWidth
    if excess = 0 then ws
    else
      let widest := ws.foldl max 0
      let next := (ws.filter (· != widest)).foldl max 0
      collapse fuel (takeFrom widest (min excess (widest - next)) excess (ws.count widest) ws)

/-- The width of a column with the given cells, without the spaces around them. -/
def widest (cells : List Text) : Nat :=
  cells.foldl (fun w t => max w t.length) 0

/-- The widths of the columns of a box, without the spaces around the cells. -/
def widths (lines : List (Text × Text × Text)) : Nat × Nat × Nat :=
  let columns := [lines.map (·.1), lines.map (·.2.1), lines.map (·.2.2)]
  let natural := columns.map fun cells => min (widest cells + 2) mostWidth
  match collapse (columns.length + 1) natural with
  | [a, b, c] => (a - 2, b - 2, c - 2)
  | _ => (0, 0, 0)

/-- A cell cut to a width, with an ellipsis in place of what is cut off. -/
def crop (width : Nat) (t : Text) : Text :=
  if t.length ≤ width then t else t.take (width - 1) ++ ['…']

/-- A line of a box between its rows, given its character, its ends and what joins the columns. -/
def rule (widths : Nat × Nat × Nat) (stroke left joint right : Char) : Text :=
  let part (w : Nat) : Text := List.replicate (w + 2) stroke
  left :: part widths.1 ++ joint :: part widths.2.1 ++ joint :: part widths.2.2 ++ [right, '\n']

/-- A row of a box, given what stands between the cells. -/
def boxLine (widths : Nat × Nat × Nat) (bar : Char) (cells : Text × Text × Text) : Text :=
  let cell (t : Text) : Text := ' ' :: t ++ [' ', bar]
  bar :: cell (Text.padRight widths.1 cells.1) ++
    cell (Text.padLeft widths.2.1 (crop widths.2.1 cells.2.1)) ++
    cell (Text.padLeft widths.2.2 (crop widths.2.2 cells.2.2)) ++ ['\n']

/-- The line of the title in the middle of a box of the given width. -/
def titleLine (width : Nat) : Text :=
  let space := width - title.length
  List.replicate (space / 2) ' ' ++ title ++ List.replicate (space - space / 2) ' ' ++ ['\n']

/-- A report in a box. -/
def boxed (rows : List Row) : Text :=
  let cells := rows.map Row.cells
  let ws := widths (header :: cells)
  let width := ws.1 + ws.2.1 + ws.2.2 + 10
  titleLine width ++ rule ws '━' '┏' '┳' '┓' ++ boxLine ws '┃' header ++ rule ws '━' '┡' '╇' '┩' ++
    cells.flatMap (boxLine ws '│') ++ rule ws '─' '└' '┴' '┘'

/-! ## Choosing -/

/-- What is known of a stream. -/
inductive Stream where
  | terminal
  | file
  /-- The stream does not tell. -/
  | unknown
  deriving DecidableEq, Repr

/-- Whether a report is boxed: if that is asked for, boxes can be drawn, and the stream is a
terminal. -/
def isBoxed (wanted available : Bool) (stream : Stream) : Bool :=
  wanted && available && stream == .terminal

end MarkTex.Report
