import MarkTex.Proofs.Table.Layout
import MarkTex.Proofs.Tex.Piece

/-!
# Pieces of a table

The code of a table is written in pieces: those of its cells, the ends of its rows, its rules, and
other markup. They are faithful whatever the cells are made of, as long as each piece of a cell is
faithful by itself (`faithful_tablePieces`). In particular the rules and the ends of rows are read
as what they are, although the next thing they find may be a cell of the row below.
-/

namespace MarkTex.Table

open Tex (Piece Faithful Inert writePieces joinPieces linePieces trimPieces)

/-! ## Lines of a table -/

/-- The pieces of a row, from those of its cells. -/
def rowPieces (row : List (List Piece)) : List Piece :=
  joinPieces " & ".toList (row.map trimPieces) ++ [.markup [' '], .seeker .lineEnd]

/-- The rule above a table as a piece. -/
def Style.topPiece : Style → Piece
  | booktabs => .seeker .topRule
  | standard => .markup "\\hline".toList

/-- The rule under the header row as a piece. -/
def Style.headerPiece : Style → Piece
  | booktabs => .seeker .headerRule
  | standard => .markup "\\hline".toList

/-- The lines between the rules above and below. -/
def bodyPieces (style : Style) : List (List (List Piece)) → List (List Piece)
  | [] => []
  | header :: body => rowPieces header :: [style.headerPiece] :: body.map rowPieces

/-- The pieces of a table, from those of its cells. -/
def tablePieces (style : Style) (environment : Environment) (spec : Text)
    (rows : List (List (List Piece))) : List Piece :=
  linePieces
    ([.markup (openingLine environment spec)] :: [style.topPiece] :: bodyPieces style rows ++
      [[.markup style.bottomRule]])
    (Tex.closing environment.name)

/-! ## What is written -/

/-- Each piece of the cells is faithful by itself. -/
def LooseRows (rows : List (List (List Piece))) : Prop :=
  ∀ row ∈ rows, ∀ cell ∈ row, ∀ piece ∈ cell, piece.Loose

/-- The pieces of a row are written as the row is. -/
theorem writePieces_rowPieces {row : List (List Piece)}
    (h : ∀ cell ∈ row, ∀ piece ∈ cell, piece.Loose) :
    writePieces (rowPieces row) = writeRow (row.map writePieces) := by
  have hcells : (row.map trimPieces).map writePieces = (row.map writePieces).map Text.strip := by
    rw [List.map_map, List.map_map]
    apply List.map_congr_left
    intro cell hcell
    exact Tex.writePieces_trimPieces fun piece hpiece => (h cell hcell piece hpiece).whole
  rw [rowPieces, Tex.writePieces_append, Tex.writePieces_joinPieces, hcells, writeRow]
  rfl

/-- The pieces of the lines are written as the lines are. -/
theorem map_writePieces_bodyPieces (style : Style) {rows : List (List (List Piece))}
    (h : LooseRows rows) :
    (bodyPieces style rows).map writePieces =
      bodyLines style (rows.map fun row => row.map writePieces) := by
  cases rows with
  | nil => rfl
  | cons header body =>
    rw [LooseRows, List.forall_mem_cons] at h
    have hrule : writePieces [style.headerPiece] = style.headerRule := by
      cases style <;> rfl
    have hbody : (body.map rowPieces).map writePieces =
        (body.map fun row => row.map writePieces).map writeRow := by
      rw [List.map_map, List.map_map]
      apply List.map_congr_left
      intro row hrow
      exact writePieces_rowPieces (h.2 row hrow)
    rw [bodyPieces, List.map_cons, List.map_cons, writePieces_rowPieces h.1, hrule, hbody,
      List.map_cons, bodyLines]

/-- The pieces of a table are written as its code. -/
theorem writePieces_tablePieces (style : Style) (environment : Environment) (spec : Text)
    {rows : List (List (List Piece))} (h : LooseRows rows) :
    writePieces (tablePieces style environment spec rows) =
      assemble style environment spec (rows.map fun row => row.map writePieces) := by
  have hmarkup : ∀ t : Text, writePieces [.markup t] = t := List.append_nil
  have htop : writePieces [style.topPiece] = style.topRule := by
    cases style <;> rfl
  rw [tablePieces, Tex.writePieces_linePieces, assemble, List.cons_append, List.cons_append,
    List.map_cons, List.map_cons, List.map_append, map_writePieces_bodyPieces style h, hmarkup,
    htop, List.map_singleton, hmarkup]
  simp only [List.cons_append, List.append_assoc, List.nil_append]

/-! ## Faithful tables -/

/-- The rule of plain tables. -/
theorem faithful_line : Faithful [.markup "\\hline".toList] := by
  have hline : Inert ('\\' :: 'h' :: "line".toList) :=
    Tex.inert_initial (by decide) (by decide) (by decide)
  exact Tex.faithful_backslash hline rfl

/-- The rule under the header is faithful, with the line end behind it. -/
theorem faithful_headerLine (style : Style) :
    Faithful ([style.headerPiece] ++ [.markup ['\n']]) := by
  cases style with
  | booktabs => exact Tex.faithful_seeker .headerRule rfl
  | standard => exact faithful_line.append Tex.faithful_lineFeed

/-- The rule on top is faithful, with the line end behind it. -/
theorem faithful_topLine (style : Style) : Faithful ([style.topPiece] ++ [.markup ['\n']]) := by
  cases style with
  | booktabs => exact Tex.faithful_seeker .topRule rfl
  | standard => exact faithful_line.append Tex.faithful_lineFeed

/-- The rule at the bottom is faithful. -/
theorem faithful_bottomRule (style : Style) : Faithful [.markup style.bottomRule] := by
  cases style with
  | standard => exact faithful_line
  | booktabs =>
    have hrule : Inert ('\\' :: 'b' :: "ottomrule".toList) :=
      Tex.inert_initial (by decide) (by decide) (by decide)
    exact Tex.faithful_backslash hrule rfl

/-- A row is faithful if the pieces of its cells are by themselves. -/
theorem faithful_rowPieces {row : List (List Piece)}
    (h : ∀ cell ∈ row, ∀ piece ∈ cell, piece.Loose) : Faithful (rowPieces row) := by
  have hseparator : Faithful [.markup " & ".toList] :=
    Tex.faithful_markup (Tex.inert_of_not_mem (by decide)) (Piece.honest_of_first? (by decide))
  have hspace : Faithful [.markup [' ']] := Tex.faithful_skipped rfl
  have hend : Faithful [.seeker .lineEnd] :=
    Tex.faithful_of_loose (List.forall_mem_singleton.2 Tex.loose_lineEnd)
  refine (Tex.faithful_joinPieces hseparator ?_).append (hspace.append hend)
  rw [List.forall_mem_map]
  intro cell hcell
  apply Tex.faithful_of_loose
  intro piece hpiece
  exact h cell hcell piece (Tex.mem_of_mem_trimPieces hpiece)

/-- The lines of the rows are faithful. -/
theorem faithful_bodyPieces (style : Style) {rows : List (List (List Piece))} (h : LooseRows rows) :
    ∀ line ∈ bodyPieces style rows, Faithful (line ++ [.markup ['\n']]) := by
  have hrow : ∀ row, (∀ cell ∈ row, ∀ piece ∈ cell, piece.Loose) →
      Faithful (rowPieces row ++ [.markup ['\n']]) :=
    fun row hcells => (faithful_rowPieces hcells).append Tex.faithful_lineFeed
  cases rows with
  | nil => exact List.forall_mem_nil _
  | cons header body =>
    rw [LooseRows, List.forall_mem_cons] at h
    rw [bodyPieces, List.forall_mem_cons, List.forall_mem_cons, List.forall_mem_map]
    exact ⟨hrow header h.1, faithful_headerLine style, fun row hmem => hrow row (h.2 row hmem)⟩

/-- The width of the text is a command that looks for nothing. -/
theorem inert_textwidth : Inert "\\textwidth\x7d".toList := by
  have hname : Tex.IsOtherName "textwidth".toList := by
    decide
  have hbrace : Inert ['}'] := Tex.inert_of_not_mem (by decide)
  exact Tex.inert_name hname rfl hbrace

/-- A column specification holds no command that looks for an argument. -/
theorem inert_columnSpec {a : Analysis} {environment : Environment} {spec : Text}
    (h : columnSpec a environment = .ok spec) : Inert spec := by
  have hinert : ∀ t : Text, (∀ c ∈ t, isSpecChar c = true) → Inert t := by
    intro t ht
    apply Tex.inert_of_not_mem
    intro hmem
    exact absurd (ht _ hmem) (by decide)
  refine holds_columnSpec Tex.compositional_inert
    (fun c hc => hinert [c] (List.forall_mem_singleton.2 hc)) (fun t ht => ?_) h
  have hopen : Inert ['{'] := Tex.inert_of_not_mem (by decide)
  have hbox := Tex.compositional_inert.append hopen
    (Tex.compositional_inert.append (hinert t ht) inert_textwidth)
  simpa [Tex.braced] using hbox

/-- The line that opens a table is faithful. -/
theorem faithful_openingLine (environment : Environment) {spec : Text} (h : Inert spec) :
    Faithful [.markup (openingLine environment spec)] := by
  have hbraced := Tex.inert_braced h
  have hbrace : Inert ['{'] := Tex.inert_of_not_mem (by decide)
  have hwidth := Tex.compositional_inert.append hbrace inert_textwidth
  -- the width stands in front of the columns in one of the environments only
  cases environment with
  | tabular =>
    have hopening : Inert (Tex.opening "tabular") := Tex.inert_opening (by decide)
    exact Tex.faithful_backslash (Tex.compositional_inert.append hopening hbraced) rfl
  | longtable =>
    have hopening : Inert (Tex.opening "longtable") := Tex.inert_opening (by decide)
    exact Tex.faithful_backslash (Tex.compositional_inert.append hopening hbraced) rfl
  | tabularx =>
    have hopening : Inert (Tex.opening "tabularx") := Tex.inert_opening (by decide)
    have hline := Tex.compositional_inert.append
      (Tex.compositional_inert.append hopening hwidth) hbraced
    exact Tex.faithful_backslash hline rfl

/-- **The pieces of a table are faithful**, whatever its cells are. -/
theorem faithful_tablePieces (style : Style) (environment : Environment) {spec : Text}
    (hspec : Inert spec) {rows : List (List (List Piece))} (h : LooseRows rows) :
    Faithful (tablePieces style environment spec rows) := by
  have hclosing : Faithful [.markup (Tex.closing environment.name)] :=
    Tex.faithful_backslash (Tex.inert_closing (by cases environment <;> decide)) rfl
  apply Tex.faithful_linePieces hclosing
  rw [List.cons_append, List.cons_append, List.forall_mem_cons, List.forall_mem_cons,
    List.forall_mem_append, List.forall_mem_singleton]
  exact ⟨(faithful_openingLine environment hspec).append Tex.faithful_lineFeed,
    faithful_topLine style, faithful_bodyPieces style h,
    (faithful_bottomRule style).append Tex.faithful_lineFeed⟩

end MarkTex.Table
