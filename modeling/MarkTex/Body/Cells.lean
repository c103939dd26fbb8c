import MarkTex.Body.Inline
import MarkTex.Table.Basic
import MarkTex.Text.Case

/-!
# Cells of a table

The cells of a table are collected from the tokens between its opening and its closing token: the
emitted text of each, its visible text for measuring, and the alignments that the header cells give.
Rows without cells are left out.
-/

namespace MarkTex.Body

open Markdown (Token)

/-- The cells of a table, as they are emitted and as they are measured, and the alignments of its
columns. -/
structure Cells where
  rows : List Table.Row := []
  plainRows : List Table.Row := []
  alignments : List Table.Alignment := []
  deriving DecidableEq, Repr, Inhabited

/-- The alignment in the style of a cell. -/
def cellAlignment (t : Token) : Table.Alignment :=
  let style := Text.lower ((t.attrText "style").filter (· ≠ ' '))
  if Text.has style "text-align:center".toList then .center
  else if Text.has style "text-align:right".toList then .right
  else .left

/-- What was collected so far: the finished rows, whether the header is being read, the row that is
being read, and what its cells need. -/
structure Collected where
  cells : Cells := {}
  inHeader : Bool := false
  row : Table.Row := []
  plainRow : Table.Row := []
  needs : Fragment := {}

namespace Collected

/-- Starts a new row. -/
def clearRow (s : Collected) : Collected :=
  { s with row := [], plainRow := [] }

/-- Ends the row that is being read, and keeps it if it has cells. -/
def endRow (s : Collected) : Collected :=
  if s.row.isEmpty then s.clearRow
  else
    { s.clearRow with
      cells :=
        { s.cells with
          rows := s.cells.rows ++ [s.row]
          plainRows := s.cells.plainRows ++ [s.plainRow] } }

/-- Notes the alignment of a header cell. -/
def align (s : Collected) (t : Token) : Collected :=
  if s.inHeader && t.kind = "th_open" then
    { s with cells := { s.cells with alignments := s.cells.alignments ++ [cellAlignment t] } }
  else s

/-- Adds the cell whose text the tokens in `rest` start with. -/
def addCell (s : Collected) (rest : List Token) : Collected :=
  let cell := renderNextInline rest
  { s with
    row := s.row ++ [cell.text]
    plainRow := s.plainRow ++ [plainNextInline rest]
    needs := s.needs ++ cell.mapText fun _ => [] }

/-- Takes in the token `t`, which the tokens in `rest` follow. -/
def step (s : Collected) (t : Token) (rest : List Token) : Collected :=
  if t.kind = "thead_open" then { s with inHeader := true }
  else if t.kind = "thead_close" || t.kind = "tbody_open" then { s with inHeader := false }
  else if t.kind = "tr_open" then s.clearRow
  else if t.kind = "tr_close" then s.endRow
  else if t.kind = "th_open" || t.kind = "td_open" then (s.align t).addCell rest
  else s

end Collected

/-- Collects the cells from the tokens of a table. -/
def collectFrom (s : Collected) : List Token → Collected
  | [] => s
  | t :: rest => collectFrom (s.step t rest) rest

/-- The cells in the tokens of a table, and what they need. -/
def collectCells (tokens : List Token) : Cells × Fragment :=
  let s := collectFrom {} tokens
  (s.cells, s.needs)

/-- The cells of the table whose opening token stands at `index`, if there is a token. -/
def cellsAt? (tokens : List Token) (index : Nat) : Option (Cells × Fragment) :=
  match tokens.drop index with
  | [] => none
  | t :: rest => some (collectCells (rest.take (Markdown.lengthOf t rest)))

end MarkTex.Body
