import MarkTex.Proofs.Body.Outline

/-!
# Rows of any table

What a table is made of is told from its tokens by recursion, without the state that collecting goes
through (`collectCells_eq`). A row is kept from where it was last started to where it ends, if it
has cells (`rowsFrom`). Cells that are not kept still count for what they need (`cellsFrom`), and
those of the header for the alignments (`alignmentsFrom`).
-/

namespace MarkTex.Body

open Markdown (Token)

/-- Whether a token opens a cell. -/
def opensCell (t : Token) : Bool :=
  t.kind = "th_open" || t.kind = "td_open"

/-- The rows that are kept, each cell with the children of its text. `row` holds the cells of the
row that is being read. -/
def rowsFrom (row : List (List Token)) : List Token → List (List (List Token))
  | [] => []
  | t :: rest =>
    if t.kind = "tr_open" then rowsFrom [] rest
    else if t.kind = "tr_close" then
      if row.isEmpty then rowsFrom [] rest else row :: rowsFrom [] rest
    else if opensCell t then rowsFrom (row ++ [nextInlines rest]) rest
    else rowsFrom row rest

/-- All cells, kept or not. -/
def cellsFrom : List Token → List (List Token)
  | [] => []
  | t :: rest => if opensCell t then nextInlines rest :: cellsFrom rest else cellsFrom rest

/-- The alignments of the header cells, kept or not. -/
def alignmentsFrom (inHeader : Bool) : List Token → List Table.Alignment
  | [] => []
  | t :: rest =>
    if t.kind = "thead_open" then alignmentsFrom true rest
    else if t.kind = "thead_close" || t.kind = "tbody_open" then alignmentsFrom false rest
    else if inHeader && t.kind = "th_open" then cellAlignment t :: alignmentsFrom inHeader rest
    else alignmentsFrom inHeader rest

/-- A kept cell is one of the cells. -/
theorem mem_of_mem_rowsFrom {cells row : List (List Token)} {cell : List Token}
    {tokens : List Token} (hcells : cells ∈ rowsFrom row tokens) (hcell : cell ∈ cells) :
    cell ∈ row ∨ cell ∈ cellsFrom tokens := by
  induction tokens generalizing row with
  | nil => simp [rowsFrom] at hcells
  | cons t rest ih =>
    -- a cell behind `t` counts as one of the cells from `t` on
    have hlater : ∀ {others}, cells ∈ rowsFrom others rest → cell ∈ others ∨
        cell ∈ cellsFrom (t :: rest) := by
      intro others hothers
      refine (ih hothers).imp_right fun hrest => ?_
      rw [cellsFrom]
      split
      · exact List.mem_cons_of_mem _ hrest
      · exact hrest
    rw [rowsFrom] at hcells
    split at hcells
    · exact .inr ((hlater hcells).resolve_left List.not_mem_nil)
    split at hcells
    · split at hcells
      · exact .inr ((hlater hcells).resolve_left List.not_mem_nil)
      · rcases List.mem_cons.1 hcells with rfl | hcells
        · exact .inl hcell
        · exact .inr ((hlater hcells).resolve_left List.not_mem_nil)
    split at hcells
    · rename_i hopens
      rcases hlater hcells with hrow | hrest
      · rcases List.mem_append.1 hrow with hrow | hnext
        · exact .inl hrow
        · refine .inr ?_
          rw [cellsFrom, if_pos hopens, List.mem_singleton.1 hnext]
          exact List.mem_cons_self
      · exact .inr hrest
    · exact hlater hcells

/-! ## Collecting the cells -/

/-- A row as it is emitted. -/
def emittedCells (row : List (List Token)) : Table.Row :=
  row.map fun children => (renderInlines children).text

/-- A row as it is measured. -/
def measuredCells (row : List (List Token)) : Table.Row :=
  row.map plainText

/-- The plain text of a cell is that of the inline token behind its start. -/
theorem plainNextInline_eq (rest : List Token) :
    plainNextInline rest = plainText (nextInlines rest) := by
  cases rest with
  | nil => rfl
  | cons t rest =>
    rw [plainNextInline, nextInlines]
    split <;> rfl

namespace Collected

/-- The row that is being read has the given cells. -/
structure Reads (s : Collected) (cells : List (List Token)) : Prop where
  row : s.row = emittedCells cells
  plainRow : s.plainRow = measuredCells cells

/-- A row that was just started holds no cells. -/
theorem reads_clearRow (s : Collected) : s.clearRow.Reads [] :=
  ⟨rfl, rfl⟩

/-- A row that has ended leaves no cells behind. -/
theorem reads_endRow (s : Collected) : s.endRow.Reads [] := by
  rw [endRow]
  split <;> exact ⟨rfl, rfl⟩

/-- An alignment that is noted changes no row. -/
theorem align_cells (s : Collected) (t : Token) :
    (s.align t).cells.rows = s.cells.rows ∧ (s.align t).cells.plainRows = s.cells.plainRows := by
  rw [align]
  split <;> exact ⟨rfl, rfl⟩

variable {s : Collected} {row : List (List Token)}

/-- A cell joins the row that is being read. -/
theorem Reads.addCell (h : s.Reads row) (t : Token) (rest : List Token) :
    ((s.align t).addCell rest).Reads (row ++ [nextInlines rest]) := by
  have hrow : (s.align t).row = s.row ∧ (s.align t).plainRow = s.plainRow := by
    rw [align]
    split <;> exact ⟨rfl, rfl⟩
  constructor
  · rw [Collected.addCell, hrow.1, h.row, renderNextInline_eq, emittedCells, emittedCells,
      List.map_append]
    rfl
  · rw [Collected.addCell, hrow.2, h.plainRow, plainNextInline_eq, measuredCells, measuredCells,
      List.map_append]
    rfl

/-- A row that ends is kept if it has cells. -/
theorem Reads.endRow_cells (h : s.Reads row) :
    s.endRow.cells =
      if row.isEmpty then s.cells
      else
        { s.cells with
          rows := s.cells.rows ++ [emittedCells row]
          plainRows := s.cells.plainRows ++ [measuredCells row] } := by
  have hempty : s.row.isEmpty = row.isEmpty := by
    rw [h.row, emittedCells, List.isEmpty_map]
  rw [endRow, hempty, ← h.row, ← h.plainRow]
  split <;> rfl

end Collected

/-- What one token changes: it starts a row, ends one, adds a cell, or touches none of the rows. -/
theorem Collected.step_cases (s : Collected) (t : Token) (rest : List Token) :
    (t.kind = "tr_open" ∧ s.step t rest = s.clearRow) ∨
    (t.kind = "tr_close" ∧ s.step t rest = s.endRow) ∨
    (t.kind ≠ "tr_open" ∧ t.kind ≠ "tr_close" ∧ opensCell t = true ∧
      s.step t rest = (s.align t).addCell rest) ∨
    (t.kind ≠ "tr_open" ∧ t.kind ≠ "tr_close" ∧ opensCell t = false ∧
      ∃ inHeader, s.step t rest = { s with inHeader }) := by
  by_cases hhead : t.kind = "thead_open"
  · refine .inr (.inr (.inr ⟨?_, ?_, ?_, true, ?_⟩)) <;> simp [step, opensCell, hhead]
  -- only these kinds of tokens say where the header is, and they touch no row
  by_cases hbody : t.kind = "thead_close" ∨ t.kind = "tbody_open"
  · refine .inr (.inr (.inr ⟨?_, ?_, ?_, false, ?_⟩)) <;>
      rcases hbody with h | h <;> simp [step, opensCell, h]
  by_cases hopen : t.kind = "tr_open"
  · exact .inl ⟨hopen, by simp [step, hopen]⟩
  by_cases hclose : t.kind = "tr_close"
  · exact .inr (.inl ⟨hclose, by simp [step, hclose]⟩)
  rw [not_or] at hbody
  by_cases hcell : opensCell t = true
  · refine .inr (.inr (.inl ⟨hopen, hclose, hcell, ?_⟩))
    rw [opensCell] at hcell
    simp [step, hhead, hbody, hopen, hclose, hcell]
  · rw [Bool.not_eq_true] at hcell
    refine .inr (.inr (.inr ⟨hopen, hclose, hcell, s.inHeader, ?_⟩))
    rw [opensCell] at hcell
    simp [step, hhead, hbody, hopen, hclose, hcell]

/-- The rows that are collected are those that are kept. -/
theorem rows_collectFrom {s : Collected} {row : List (List Token)} (h : s.Reads row)
    (tokens : List Token) :
    (collectFrom s tokens).cells.rows =
        s.cells.rows ++ (rowsFrom row tokens).map emittedCells ∧
      (collectFrom s tokens).cells.plainRows =
        s.cells.plainRows ++ (rowsFrom row tokens).map measuredCells := by
  induction tokens generalizing s row with
  | nil => simp [collectFrom, rowsFrom]
  | cons t rest ih =>
    rw [collectFrom, rowsFrom]
    -- the row that is being read follows `s.row` through each kind of step
    rcases s.step_cases t rest with ⟨hkind, hstep⟩ | ⟨hkind, hstep⟩ |
      ⟨hopen, hclose, hcell, hstep⟩ | ⟨hopen, hclose, hcell, inHeader, hstep⟩
    · rw [hstep, if_pos hkind]
      exact ih s.reads_clearRow
    · rw [hstep, if_neg (by rw [hkind]; decide), if_pos hkind]
      obtain ⟨hrows, hplain⟩ := ih s.reads_endRow
      rw [hrows, hplain, h.endRow_cells]
      split <;> simp
    · rw [hstep, if_neg hopen, if_neg hclose, if_pos hcell]
      obtain ⟨hrows, hplain⟩ := ih (h.addCell t rest)
      rw [hrows, hplain]
      exact ⟨congrArg (· ++ _) (s.align_cells t).1, congrArg (· ++ _) (s.align_cells t).2⟩
    · rw [hstep, if_neg hopen, if_neg hclose, if_neg (by rw [hcell]; decide)]
      exact ih ⟨h.row, h.plainRow⟩

/-- What cells need, whatever they are set as. -/
def needsOf (cells : List (List Token)) : Fragment :=
  (Fragment.concat (cells.map renderInlines)).mapText fun _ => []

/-- Cells need what the first needs, and then what the others do. -/
theorem needsOf_cons (cell : List Token) (cells : List (List Token)) :
    needsOf (cell :: cells) = (renderInlines cell).mapText (fun _ => []) ++ needsOf cells := by
  rw [needsOf, List.map_cons, Fragment.concat_cons]
  rfl

/-- What the cells of a table need is noted, kept or not. -/
theorem needs_collectFrom (s : Collected) (tokens : List Token) :
    (collectFrom s tokens).needs = s.needs ++ needsOf (cellsFrom tokens) := by
  induction tokens generalizing s with
  | nil => simp [collectFrom, cellsFrom, needsOf, Fragment.mapText]
  | cons t rest ih =>
    rw [collectFrom, ih, cellsFrom]
    have hclear : s.clearRow.needs = s.needs := rfl
    have hend : s.endRow.needs = s.needs := by
      rw [Collected.endRow]
      split <;> rfl
    have halign : (s.align t).needs = s.needs := by
      rw [Collected.align]
      split <;> rfl
    rcases s.step_cases t rest with ⟨hkind, hstep⟩ | ⟨hkind, hstep⟩ | ⟨-, -, hcell, hstep⟩ |
      ⟨-, -, hcell, inHeader, hstep⟩
    · rw [hstep, hclear, if_neg (by simp [opensCell, hkind])]
    · rw [hstep, hend, if_neg (by simp [opensCell, hkind])]
    · rw [hstep, if_pos hcell, needsOf_cons, ← renderNextInline_eq, ← Fragment.append_assoc,
        Collected.addCell, halign]
    · rw [hstep, if_neg (by rw [hcell]; decide)]

/-- The alignments that are collected are those of the header cells. -/
theorem alignments_collectFrom (s : Collected) (tokens : List Token) :
    (collectFrom s tokens).cells.alignments =
      s.cells.alignments ++ alignmentsFrom s.inHeader tokens := by
  induction tokens generalizing s with
  | nil => simp [collectFrom, alignmentsFrom]
  | cons t rest ih =>
    rw [collectFrom, ih, alignmentsFrom]
    by_cases hhead : t.kind = "thead_open"
    · simp [Collected.step, hhead]
    by_cases hbody : t.kind = "thead_close" ∨ t.kind = "tbody_open"
    · rcases hbody with h | h <;> simp [Collected.step, h]
    rw [not_or] at hbody
    by_cases hopen : t.kind = "tr_open"
    · simp [Collected.step, hopen, Collected.clearRow]
    by_cases hclose : t.kind = "tr_close"
    · -- the end of a row notes no alignment, whether the row has cells or not
      have hend : s.endRow.cells.alignments = s.cells.alignments ∧
          s.endRow.inHeader = s.inHeader := by
        rw [Collected.endRow]
        split <;> exact ⟨rfl, rfl⟩
      simp [Collected.step, hclose, hend]
    by_cases hcell : t.kind = "th_open"
    · cases hheader : s.inHeader <;>
        simp [Collected.step, hcell, Collected.addCell, Collected.align, hheader]
    · by_cases hdata : t.kind = "td_open"
      · simp [Collected.step, hdata, Collected.addCell, Collected.align]
      · simp [Collected.step, hhead, hbody, hopen, hclose, hcell, hdata]

/-! ## Whole tables -/

/-- The cells of a table, as they are emitted and as they are measured, its alignments, and what its
cells need. -/
theorem collectCells_eq (tokens : List Token) :
    collectCells tokens =
      ({ rows := (rowsFrom [] tokens).map emittedCells
         plainRows := (rowsFrom [] tokens).map measuredCells
         alignments := alignmentsFrom false tokens },
        needsOf (cellsFrom tokens)) := by
  have hreads : Collected.Reads {} [] := ⟨rfl, rfl⟩
  obtain ⟨hrows, hplain⟩ := rows_collectFrom hreads tokens
  have halignments := alignments_collectFrom {} tokens
  have hneeds := needs_collectFrom {} tokens
  cases hcells : (collectFrom {} tokens).cells with
  | mk rows plainRows alignments =>
    rw [hcells] at hrows hplain halignments
    obtain rfl : rows = _ := hrows
    obtain rfl : plainRows = _ := hplain
    obtain rfl : alignments = _ := halignments
    rw [collectCells, hneeds, hcells]
    exact congrArg (Prod.mk _) (Fragment.empty_append _)

/-- What cells need is the union of what each of them needs. -/
theorem features_needsOf (cells : List (List Token)) :
    (needsOf cells).features =
      Features.unionAll (cells.map fun cell => (renderInlines cell).features) := by
  have hfeatures := Fragment.features_concat (cells.map renderInlines)
  rwa [List.map_map] at hfeatures

end MarkTex.Body
