import MarkTex.Proofs.Table.Measure
import MarkTex.Proofs.Text.Marker

/-!
# Columns of cells with markers

A cell is measured with its markers taken out. This only makes it narrower, so a column that is long
is long as well if its cells are measured as they were written (`longColumns_subset_longBy`). The
columns of a table can be measured by any width of a cell (`lengthBy`, `longBy`), and a narrower one
makes fewer of them long.
-/

namespace MarkTex.Table

open Text (width stripMarkers Unmarked)

/-- The length of a column whose cells are as wide as `measure` says. -/
def lengthBy (measure : Text → Nat) (measured : List Row) (column : Nat) : Nat :=
  (measured.map fun row => measure (row.getD column [])).foldl max 0

/-- The long columns of a table whose cells are as wide as `measure` says. -/
def longBy (measure : Text → Nat) (options : Options) (rows measured : List Row) : List Nat :=
  (List.range (columnCount rows)).filter fun column =>
    options.wrapThreshold ≤ lengthBy measure measured column

section

variable {measure wider : Text → Nat} {options : Options} {rows measured : List Row}
  {alignments : List Alignment}

/-- A column is long by a width if its cells reach the threshold by it. -/
theorem mem_longBy {column : Nat} :
    column ∈ longBy measure options rows measured ↔
      column < columnCount rows ∧ options.wrapThreshold ≤ lengthBy measure measured column := by
  rw [longBy, List.mem_filter, List.mem_range, decide_eq_true_eq]

/-- A table is measured by its cells without their markers. -/
theorem mem_longColumns_iff_longBy {column : Nat} :
    column ∈ (analyze options rows measured alignments).longColumns ↔
      column ∈ longBy (fun cell => width (stripMarkers cell)) options rows measured := by
  rw [mem_longColumns, mem_longBy]
  rfl

/-- A column of wider cells is no shorter. -/
theorem lengthBy_mono (h : ∀ cell, measure cell ≤ wider cell) (column : Nat) :
    lengthBy measure measured column ≤ lengthBy wider measured column := by
  rw [lengthBy, foldl_max_le_iff, List.forall_mem_map]
  intro row hrow
  have hmem : wider (row.getD column []) ∈
      measured.map fun row => wider (row.getD column []) := List.mem_map_of_mem hrow
  exact (h _).trans (foldl_max_le_iff.1 (le_refl _) _ hmem)

/-- A wider width makes no fewer columns long. -/
theorem longBy_mono (h : ∀ cell, measure cell ≤ wider cell) :
    longBy measure options rows measured ⊆ longBy wider options rows measured := by
  intro column hcolumn
  rw [mem_longBy] at hcolumn ⊢
  exact ⟨hcolumn.1, hcolumn.2.trans (lengthBy_mono h column)⟩

/-- Without its markers a cell is no wider. -/
theorem width_stripMarkers_le (cell : Text) : width (stripMarkers cell) ≤ width cell :=
  Text.width_le_of_sublist (Text.stripMarkers_sublist cell)

/-- What is long without its markers is long with them. -/
theorem longColumns_subset_longBy :
    (analyze options rows measured alignments).longColumns ⊆
      longBy width options rows measured := by
  intro column hcolumn
  exact longBy_mono width_stripMarkers_le (mem_longColumns_iff_longBy.1 hcolumn)

end

/-- **Stripping markers only takes characters out**, all asterisks among them. So it makes no text
wider and no column of a table long that would not be long as it was written; and a text without
anything that a marker starts with stays as it is. -/
theorem sublist_stripMarkers (t : Text) :
    (stripMarkers t).Sublist t ∧
    '*' ∉ stripMarkers t ∧
    width (stripMarkers t) ≤ width t ∧
    (∀ options rows measured alignments,
      (analyze options rows measured alignments).longColumns ⊆
        longBy width options rows measured) ∧
    (Unmarked t → stripMarkers t = t) := by
  refine ⟨Text.stripMarkers_sublist t, Text.not_mem_stripMarkers t, width_stripMarkers_le t, ?_,
    Text.stripMarkers_of_unmarked⟩
  intro options rows measured alignments
  exact longColumns_subset_longBy

/-- Single tildes, a bracket that closes and parentheses are no markers, and stay. -/
theorem sublist_stripMarkers_tildes :
    let t : Text := "~a~] (b)".toList
    Unmarked t ∧ stripMarkers t = t := by
  intro t
  have hunmarked : Unmarked t := by
    constructor <;> decide
  obtain ⟨-, -, -, -, hsame⟩ := sublist_stripMarkers t
  exact ⟨hunmarked, hsame hunmarked⟩

end MarkTex.Table
