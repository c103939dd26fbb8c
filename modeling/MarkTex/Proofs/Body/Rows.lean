import MarkTex.Markdown.Tree
import MarkTex.Proofs.Body.Cells

/-!
# Tables of a tree

The tokens of a table that was laid flat hold the rows that it was made of: rows without cells are
left out (`keptRows`), every cell counts for what it needs, and each header cell gives the alignment
of its column (`collectCells_tableTokens`).
-/

namespace MarkTex.Body

open Markdown (Token enclose tagToken flattenCell flattenCells flattenRow flattenRows)

/-- A running text: its source, and the children that it was read into. -/
structure Running where
  content : Text
  children : List Token

/-- The inline token of a running text. -/
def Running.token (text : Running) : Token :=
  Markdown.inlineToken text.content text.children

/-! ## What a table of a tree is set from -/

/-- The alignments of the columns below header cells, to the left where none is given. -/
def headerAlignments : List (Option Table.Alignment) → List Running → List Table.Alignment
  | _, [] => []
  | [], _ :: texts => .left :: headerAlignments [] texts
  | alignment :: alignments, _ :: texts => alignment.getD .left :: headerAlignments alignments texts

/-- The rows of a table that have cells; the others are left out. -/
def keptRows (rows : List (List Running)) : List (List Running) :=
  rows.filter (!·.isEmpty)

/-- A row as it is emitted. -/
def emittedRow (row : List Running) : Table.Row :=
  row.map fun text => (renderInlines text.children).text

/-- A row as it is measured. -/
def measuredRow (row : List Running) : Table.Row :=
  row.map fun text => plainText text.children

/-- What the cells of a table need, whatever they are set as. -/
def cellNeeds (rows : List (List Running)) : Fragment :=
  (Fragment.concat (rows.flatten.map fun text => renderInlines text.children)).mapText fun _ => []

/-- The tokens of a table between its opening and its closing token. -/
def tableTokens (alignments : List (Option Table.Alignment)) (header : List Running)
    (rows : List (List Running)) : List Token :=
  enclose (tagToken "thead_open" "thead") (flattenRow Running.token "th" alignments header)
      (tagToken "thead_close" "thead") ++
    flattenRows Running.token alignments rows

/-! ## Kept rows -/

section

variable (alignments : List (Option Table.Alignment))

/-- The tokens of a cell add its text to the row. -/
theorem rowsFrom_cell (row : List (List Token)) {tag : String} (htag : tag = "th" ∨ tag = "td")
    (alignment : Option Table.Alignment) (text : Running) (rest : List Token) :
    rowsFrom row (flattenCell Running.token tag alignment text ++ rest) =
      rowsFrom (row ++ [text.children]) rest := by
  rcases htag with rfl | rfl <;>
    simp [flattenCell, enclose, tagToken, rowsFrom, opensCell, nextInlines, Running.token,
      Markdown.inlineToken, Token.inlines]

/-- The tokens of some cells add their texts to the row, in order. -/
theorem rowsFrom_cells (row : List (List Token)) {tag : String} (htag : tag = "th" ∨ tag = "td")
    (texts : List Running) (rest : List Token) :
    rowsFrom row (flattenCells Running.token tag alignments texts ++ rest) =
      rowsFrom (row ++ texts.map Running.children) rest := by
  fun_induction flattenCells Running.token tag alignments texts generalizing row with
  | case1 => rw [List.map_nil, List.append_nil, List.nil_append]
  | case2 text texts ih =>
    rw [List.append_assoc, rowsFrom_cell row htag, ih, List.append_assoc]
    rfl
  | case3 alignment alignments text texts ih =>
    rw [List.append_assoc, rowsFrom_cell row htag, ih, List.append_assoc]
    rfl

/-- A row is kept if it has cells. -/
theorem rowsFrom_row (before : List (List Token)) {tag : String} (htag : tag = "th" ∨ tag = "td")
    (row : List Running) (rest : List Token) :
    rowsFrom before (flattenRow Running.token tag alignments row ++ rest) =
      (keptRows [row]).map (List.map Running.children) ++ rowsFrom [] rest := by
  have hopen : rowsFrom before (flattenRow Running.token tag alignments row ++ rest) =
      rowsFrom [] (flattenCells Running.token tag alignments row ++
        (tagToken "tr_close" "tr" :: rest)) := by
    simp [flattenRow, enclose, tagToken, rowsFrom]
  -- what was read before the row is forgotten where the row starts
  rw [hopen, rowsFrom_cells alignments [] htag]
  cases row with
  | nil => simp [rowsFrom, tagToken, keptRows]
  | cons text row => simp [rowsFrom, tagToken, keptRows]

/-- Whether a row is kept does not depend on the other rows. -/
theorem keptRows_cons (row : List Running) (rows : List (List Running)) :
    keptRows (row :: rows) = keptRows [row] ++ keptRows rows := by
  rw [keptRows, keptRows, keptRows, ← List.filter_append, List.singleton_append]

/-- The tokens of some rows give the rows that have cells. -/
theorem rowsFrom_rows (rows : List (List Running)) (rest : List Token) :
    rowsFrom [] (rows.flatMap (flattenRow Running.token "td" alignments) ++ rest) =
      (keptRows rows).map (List.map Running.children) ++ rowsFrom [] rest := by
  induction rows with
  | nil => rfl
  | cons row rows ih =>
    rw [List.flatMap_cons, List.append_assoc, rowsFrom_row alignments [] (.inr rfl), ih,
      keptRows_cons row rows, List.map_append, List.append_assoc]

/-- The tokens of a table give its rows that have cells, the header in front. -/
theorem rowsFrom_tableTokens (header : List Running) (rows : List (List Running)) :
    rowsFrom [] (tableTokens alignments header rows) =
      (keptRows (header :: rows)).map (List.map Running.children) := by
  -- the tokens around the header and the body neither start nor end a row
  have hhead : rowsFrom [] (tableTokens alignments header rows) =
      rowsFrom [] (flattenRow Running.token "th" alignments header ++
        (tagToken "thead_close" "thead" :: flattenRows Running.token alignments rows)) := by
    simp [tableTokens, enclose, tagToken, rowsFrom, opensCell]
  have hbody : rowsFrom [] (flattenRows Running.token alignments rows) =
      (keptRows rows).map (List.map Running.children) := by
    rw [flattenRows]
    split
    · rename_i hrows
      rw [List.isEmpty_iff.1 hrows]
      rfl
    · have hrows := rowsFrom_rows alignments rows [tagToken "tbody_close" "tbody"]
      simpa [enclose, tagToken, rowsFrom, opensCell] using hrows
  rw [hhead, rowsFrom_row alignments [] (.inl rfl), keptRows_cons header rows, List.map_append,
    ← hbody]
  simp [tagToken, rowsFrom, opensCell]

/-! ## All cells -/

/-- The tokens of some cells give their texts. -/
theorem cellsFrom_cells {tag : String} (htag : tag = "th" ∨ tag = "td") (texts : List Running)
    (rest : List Token) :
    cellsFrom (flattenCells Running.token tag alignments texts ++ rest) =
      texts.map Running.children ++ cellsFrom rest := by
  have hcell : ∀ (alignment : Option Table.Alignment) (text : Running) (rest : List Token),
      cellsFrom (flattenCell Running.token tag alignment text ++ rest) =
        text.children :: cellsFrom rest := by
    intro alignment text rest
    rcases htag with rfl | rfl <;>
      simp [flattenCell, enclose, tagToken, cellsFrom, opensCell, nextInlines, Running.token,
        Markdown.inlineToken, Token.inlines]
  fun_induction flattenCells Running.token tag alignments texts with
  | case1 => rfl
  | case2 text texts ih => rw [List.append_assoc, hcell, ih, List.map_cons, List.cons_append]
  | case3 alignment alignments text texts ih =>
    rw [List.append_assoc, hcell, ih, List.map_cons, List.cons_append]

/-- The tokens of a row give the texts of its cells. -/
theorem cellsFrom_row {tag : String} (htag : tag = "th" ∨ tag = "td") (row : List Running)
    (rest : List Token) :
    cellsFrom (flattenRow Running.token tag alignments row ++ rest) =
      row.map Running.children ++ cellsFrom rest := by
  have hcells := cellsFrom_cells alignments htag row (tagToken "tr_close" "tr" :: rest)
  simpa [flattenRow, enclose, tagToken, cellsFrom, opensCell] using hcells

/-- The tokens of some rows give the texts of all their cells. -/
theorem cellsFrom_rows (rows : List (List Running)) (rest : List Token) :
    cellsFrom (rows.flatMap (flattenRow Running.token "td" alignments) ++ rest) =
      rows.flatten.map Running.children ++ cellsFrom rest := by
  induction rows with
  | nil => rfl
  | cons row rows ih =>
    rw [List.flatMap_cons, List.append_assoc, cellsFrom_row alignments (.inr rfl), ih,
      List.flatten_cons, List.map_append, List.append_assoc]

/-- The tokens of a table give the texts of all its cells, row by row. -/
theorem cellsFrom_tableTokens (header : List Running) (rows : List (List Running)) :
    cellsFrom (tableTokens alignments header rows) =
      (header :: rows).flatten.map Running.children := by
  -- the header is closed by tokens that open no cell
  have hhead : cellsFrom (tableTokens alignments header rows) =
      cellsFrom (flattenRow Running.token "th" alignments header ++
        (tagToken "thead_close" "thead" :: flattenRows Running.token alignments rows)) := by
    simp [tableTokens, enclose, tagToken, cellsFrom, opensCell]
  have hbody : cellsFrom (flattenRows Running.token alignments rows) =
      rows.flatten.map Running.children := by
    rw [flattenRows]
    -- without rows the tokens have no body at all
    split
    · rename_i hrows
      rw [List.isEmpty_iff.1 hrows]
      rfl
    · have hrows := cellsFrom_rows alignments rows [tagToken "tbody_close" "tbody"]
      simpa [enclose, tagToken, cellsFrom, opensCell] using hrows
  rw [hhead, cellsFrom_row alignments (.inl rfl), List.flatten_cons, List.map_append, ← hbody]
  simp [tagToken, cellsFrom, opensCell]

/-! ## Alignments -/

/-- A header cell gives the alignment of its column, to the left if it has none. -/
theorem cellAlignment_attributes (kind tag : String) (alignment : Option Table.Alignment) :
    cellAlignment { kind, tag, attributes := Markdown.alignmentAttributes alignment } =
      alignment.getD .left := by
  cases alignment with
  | none => rfl
  | some alignment => cases alignment <;> rfl

/-- The tokens of a header cell give one alignment, to the left if it has none of its own. -/
theorem alignmentsFrom_headerCell (alignment : Option Table.Alignment) (text : Running)
    (rest : List Token) :
    alignmentsFrom true (flattenCell Running.token "th" alignment text ++ rest) =
      alignment.getD .left :: alignmentsFrom true rest := by
  simp [flattenCell, enclose, tagToken, alignmentsFrom, Running.token, Markdown.inlineToken,
    cellAlignment_attributes]

/-- The tokens of some header cells give one alignment each. -/
theorem alignmentsFrom_headerCells (texts : List Running) (rest : List Token) :
    alignmentsFrom true (flattenCells Running.token "th" alignments texts ++ rest) =
      headerAlignments alignments texts ++ alignmentsFrom true rest := by
  fun_induction flattenCells Running.token "th" alignments texts with
  | case1 =>
    rw [headerAlignments]
    rfl
  | case2 text texts ih =>
    rw [List.append_assoc, alignmentsFrom_headerCell, ih, headerAlignments, List.cons_append]
    rfl
  | case3 alignment alignments text texts ih =>
    rw [List.append_assoc, alignmentsFrom_headerCell, ih, headerAlignments, List.cons_append]

/-- Cells below the header give no alignments. -/
theorem alignmentsFrom_rows (rows : List (List Running)) (rest : List Token) :
    alignmentsFrom false (rows.flatMap (flattenRow Running.token "td" alignments) ++ rest) =
      alignmentsFrom false rest := by
  -- a cell of the body is told from one of the header by its tag
  have hcells : ∀ (alignments : List (Option Table.Alignment)) (texts : List Running)
      (rest : List Token),
      alignmentsFrom false (flattenCells Running.token "td" alignments texts ++ rest) =
        alignmentsFrom false rest := by
    intro alignments texts rest
    fun_induction flattenCells Running.token "td" alignments texts with
    | case1 => rfl
    | case2 text texts ih =>
      rw [← ih]
      simp [flattenCell, enclose, tagToken, alignmentsFrom, Running.token, Markdown.inlineToken]
    | case3 alignment alignments text texts ih =>
      rw [← ih]
      simp [flattenCell, enclose, tagToken, alignmentsFrom, Running.token, Markdown.inlineToken]
  induction rows with
  | nil => rfl
  | cons row rows ih =>
    have hrow := hcells alignments row (tagToken "tr_close" "tr" ::
      (rows.flatMap (flattenRow Running.token "td" alignments) ++ rest))
    rw [← ih]
    simpa [flattenRow, enclose, tagToken, alignmentsFrom] using hrow

/-- The tokens of a table give the alignments of its header. -/
theorem alignmentsFrom_tableTokens (header : List Running) (rows : List (List Running)) :
    alignmentsFrom false (tableTokens alignments header rows) =
      headerAlignments alignments header := by
  have hhead := alignmentsFrom_headerCells alignments header (tagToken "tr_close" "tr" ::
    tagToken "thead_close" "thead" :: flattenRows Running.token alignments rows)
  have hbody : alignmentsFrom false (flattenRows Running.token alignments rows) = [] := by
    rw [flattenRows]
    split
    · rfl
    · have hrows := alignmentsFrom_rows alignments rows [tagToken "tbody_close" "tbody"]
      simpa [enclose, tagToken, alignmentsFrom] using hrows
  simpa [tableTokens, flattenRow, enclose, tagToken, alignmentsFrom, hbody] using hhead

/-! ## Whole tables -/

/-- The cells of a table laid flat, its alignments, and what its cells need. -/
theorem collectCells_tableTokens (header : List Running) (rows : List (List Running)) :
    collectCells (tableTokens alignments header rows) =
      ({ rows := (keptRows (header :: rows)).map emittedRow
         plainRows := (keptRows (header :: rows)).map measuredRow
         alignments := headerAlignments alignments header },
        cellNeeds (header :: rows)) := by
  have hemitted : emittedCells ∘ List.map Running.children = emittedRow := by
    funext row
    simp [emittedCells, emittedRow]
  have hmeasured : measuredCells ∘ List.map Running.children = measuredRow := by
    funext row
    simp [measuredCells, measuredRow]
  have hneeds : needsOf ((header :: rows).flatten.map Running.children) =
      cellNeeds (header :: rows) := by
    rw [needsOf, List.map_map]
    rfl
  -- rows, needs and alignments are read independently of each other
  rw [collectCells_eq, rowsFrom_tableTokens, cellsFrom_tableTokens, alignmentsFrom_tableTokens,
    List.map_map, List.map_map, hemitted, hmeasured, hneeds]

end

end MarkTex.Body
