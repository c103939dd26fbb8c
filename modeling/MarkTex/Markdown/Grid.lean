import MarkTex.Markdown.Line
import MarkTex.Table.Basic

/-!
# Written tables

A table is written as a header row, a row of dashes that also aligns the columns, and further rows.
Bars separate cells; a bar behind a backslash belongs to its cell.
-/

namespace MarkTex.Markdown

/-- The cells of a row, as they are written between its bars. `cell` is the cell read so far, last
character first, and `escaped` tells that a backslash was just read. -/
def splitCells (cell : Text) (escaped : Bool) : Text → List Text
  | [] => [cell.reverse]
  | c :: r =>
    if c = '|' then
      if escaped then splitCells (c :: cell.drop 1) false r
      else cell.reverse :: splitCells [] false r
    else splitCells (c :: cell) (c = '\\') r

/-- The list without its first item if that is empty. -/
def dropEmptyFirst (cells : List Text) : List Text :=
  match cells with
  | [] :: rest => rest
  | cells => cells

/-- The list without its last item if that is empty. -/
def dropEmptyLast (cells : List Text) : List Text :=
  if cells.getLast? = some [] then cells.dropLast else cells

/-- The cells of a row; the bars at its ends bring no cells. -/
def readCells (row : Text) : List Text :=
  (dropEmptyLast (dropEmptyFirst (splitCells [] false (trim row)))).map trim

/-- Whether `c` may stand in a row of dashes. -/
def isDashRowChar (c : Char) : Bool :=
  c == '|' || c == '-' || c == ':'

/-- Whether a text is a row of dashes by its characters. A row that starts with a dash and a space
is an item of a list. -/
def isDashRow (t : Text) : Bool :=
  match t with
  | a :: b :: r =>
    isDashRowChar a && (isDashRowChar b || isSpaceOrTab b) && !(a = '-' && isSpaceOrTab b) &&
      r.all fun c => isDashRowChar c || isSpaceOrTab c
  | _ => false

/-- The alignment that a cell of dashes gives its column, if it is one. -/
def readDashes (cell : Text) : Option (Option Table.Alignment) :=
  let starts := cell.head? = some ':'
  let afterStart := if starts then cell.drop 1 else cell
  let dashes := afterStart.takeWhile (· = '-')
  let ends := afterStart.drop dashes.length = [':']
  if dashes.isEmpty || !(ends || afterStart.length = dashes.length) then none
  else if ends then some (some (if starts then .center else .right))
  else some (if starts then some .left else none)

/-- The alignments in the cells of a row of dashes from its second cell on; only the last may be
empty. -/
def readDashCells : List Text → Option (List (Option Table.Alignment))
  | [] => some []
  | [last] => if last.isEmpty then some [] else (readDashes last).map ([·])
  | cell :: cells =>
    match readDashes cell, readDashCells cells with
    | some alignment, some alignments => some (alignment :: alignments)
    | _, _ => none

/-- The alignments of the columns, if a text is a row of dashes. -/
def readDashRow (t : Text) : Option (List (Option Table.Alignment)) :=
  if isDashRow t then readDashCells (dropEmptyFirst ((Text.splitAt '|' t).map trim)) else none

end MarkTex.Markdown
