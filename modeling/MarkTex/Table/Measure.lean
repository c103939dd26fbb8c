import MarkTex.Table.Basic
import MarkTex.Text.Marker

/-!
# Measuring tables

A column is as wide as its widest cell with the markers taken out, and wraps from the threshold on.
The number of columns is that of the longest row. The rows that are measured may be other rows than
those that are set.
-/

namespace MarkTex.Table

/-- The number of cells of the longest row. -/
def columnCount (rows : List Row) : Nat :=
  (rows.map List.length).foldl max 0

/-- The width of a cell as it will look; a row that is too short has an empty cell. -/
def cellWidth (column : Nat) (row : Row) : Nat :=
  Text.width (Text.stripMarkers (row.getD column []))

/-- The width of the widest cell of a column. -/
def columnLength (rows : List Row) (column : Nat) : Nat :=
  (rows.map (cellWidth column)).foldl max 0

/-- The measures of the table of `rows`, taken from the cells of `measured`. A column that has no
alignment of its own is aligned to the left. -/
def analyze (options : Options) (rows measured : List Row) (alignments : List Alignment) :
    Analysis :=
  let columns := columnCount rows
  let lengths := (List.range columns).map (columnLength measured)
  let long := (List.range columns).filter fun column =>
    options.wrapThreshold ≤ lengths.getD column 0
  { rowCount := rows.length
    columnCount := columns
    lengths := lengths
    hasLongText := !long.isEmpty
    longColumns := long
    alignments := (List.range columns).map fun column => alignments.getD column .left
    totalLength := lengths.foldr (· + ·) 0 }

/-- The most rows of a table that stays on one page. -/
def longestOnPage : Nat := 30

/-- The most columns of a table whose columns share the width that is left. -/
def mostShared : Nat := 5

/-- The environment for a table: the first rule that applies decides. -/
def Analysis.environment (a : Analysis) : Environment :=
  if a.rowCount > longestOnPage then .longtable
  else if !a.hasLongText then .tabular
  else if a.columnCount ≤ mostShared then .tabularx
  else .tabular

end MarkTex.Table
