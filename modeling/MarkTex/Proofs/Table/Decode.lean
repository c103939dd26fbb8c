import MarkTex.Proofs.Table.Columns

/-!
# Reading a table back

The code of a table tells its rows: the header row and the other rows, each with its cells stripped
(`readCode_layout`). For this, cells have to be texts of one line in which every ampersand is
escaped; then no two tables that differ in a stripped cell, in the order of their rows or in the
number of cells of a row have the same code.

## Shape of the proof

Lines are told apart by line feeds, and what a line is by its place, so a cell may look like a rule
or like the end of a row. In a row, the ampersands between cells are those without a backslash right
in front of them (`cutCells_cell`), and what is cut there are the cells with white space around.
-/

namespace MarkTex.Table

/-! ## Cells -/

/-- Whether each ampersand of a text has a backslash right in front of it, where `slash` tells
whether one stands in front of the text. -/
def ampersandsEscaped (slash : Bool) : Text → Bool
  | [] => true
  | c :: r => (c != '&' || slash) && ampersandsEscaped (c == '\\') r

/-- A text that can be told from its surroundings as a cell: it is of one line, and its ampersands
are escaped. An ampersand that is escaped in the eyes of TeX has a backslash in front of it, but not
the other way round: in two backslashes and an ampersand, the first backslash takes the second. Less
is asked here, so such a cell is one too. -/
structure IsCell (t : Text) : Prop where
  line : '\n' ∉ t
  escaped : ampersandsEscaped false t = true

instance (t : Text) : Decidable (IsCell t) :=
  decidable_of_iff ('\n' ∉ t ∧ ampersandsEscaped false t = true)
    ⟨fun h => ⟨h.1, h.2⟩, fun h => ⟨h.line, h.escaped⟩⟩

/-- The text cut at the ampersands without a backslash right in front of them, where `slash` tells
whether one stands in front of the text. -/
def cutCells (slash : Bool) : Text → List Text
  | [] => [[]]
  | c :: r =>
    if c = '&' ∧ slash = false then [] :: cutCells false r
    else
      match cutCells (c == '\\') r with
      | [] => [[c]]
      | part :: parts => (c :: part) :: parts

/-- A character that is no ampersand between cells is put in front of the first part. -/
theorem cutCells_cons {c : Char} {slash : Bool} (h : ¬ (c = '&' ∧ slash = false)) {r : Text}
    {part : Text} {parts : List Text} (hparts : cutCells (c == '\\') r = part :: parts) :
    cutCells slash (c :: r) = (c :: part) :: parts := by
  rw [cutCells, if_neg h, hparts]

/-- Ampersands are escaped in a text if they are in its rest and its first character is none between
cells. -/
theorem ampersandsEscaped_cons {c : Char} {slash : Bool} {r : Text} :
    ampersandsEscaped slash (c :: r) = true ↔
      ¬ (c = '&' ∧ slash = false) ∧ ampersandsEscaped (c == '\\') r = true := by
  rw [ampersandsEscaped]
  cases slash <;> simp

/-- The front of a text has its ampersands escaped if the text has. -/
theorem ampersandsEscaped_of_append {slash : Bool} {s t : Text}
    (h : ampersandsEscaped slash (s ++ t) = true) : ampersandsEscaped slash s = true := by
  induction s generalizing slash with
  | nil => rfl
  | cons c s ih =>
    rw [List.cons_append, ampersandsEscaped_cons] at h
    exact ampersandsEscaped_cons.2 ⟨h.1, ih h.2⟩

/-- White space in front of a text escapes nothing. -/
theorem ampersandsEscaped_of_blank {front t : Text} (hfront : ∀ c ∈ front, Text.isBlank c = true)
    (h : ampersandsEscaped false (front ++ t) = true) : ampersandsEscaped false t = true := by
  induction front with
  | nil => exact h
  | cons c front ih =>
    rw [List.forall_mem_cons] at hfront
    have hslash : (c == '\\') = false := by
      rw [beq_eq_false_iff_ne]
      rintro rfl
      exact absurd hfront.1 (by decide)
    rw [List.cons_append, ampersandsEscaped_cons, hslash] at h
    exact ih hfront.2 h.2

/-- A cell stays one when it is stripped. -/
theorem IsCell.strip {t : Text} (h : IsCell t) : IsCell (Text.strip t) := by
  obtain ⟨hline, hescaped⟩ := h
  obtain ⟨front, back, ht, hfront, -⟩ := Text.exists_strip t
  rw [ht] at hline hescaped
  simp only [List.mem_append, not_or] at hline
  rw [List.append_assoc] at hescaped
  exact ⟨hline.1.2, ampersandsEscaped_of_append (ampersandsEscaped_of_blank hfront hescaped)⟩

/-! ## Rows -/

/-- A text is cut behind a cell and a space, at the ampersand that follows. -/
theorem cutCells_cell {cell : Text} {slash : Bool} (h : ampersandsEscaped slash cell = true)
    (rest : Text) :
    cutCells slash (cell ++ ' ' :: '&' :: rest) = (cell ++ [' ']) :: cutCells false rest := by
  induction cell generalizing slash with
  | nil =>
    apply cutCells_cons (by simp)
    rw [cutCells, if_pos ⟨rfl, rfl⟩]
  | cons c cell ih =>
    obtain ⟨hc, hcell⟩ := ampersandsEscaped_cons.1 h
    exact cutCells_cons hc (ih hcell)

/-- A last cell is not cut. -/
theorem cutCells_last {cell : Text} {slash : Bool} (h : ampersandsEscaped slash cell = true) :
    cutCells slash cell = [cell] := by
  induction cell generalizing slash with
  | nil => rfl
  | cons c cell ih =>
    obtain ⟨hc, hcell⟩ := ampersandsEscaped_cons.1 h
    exact cutCells_cons hc (ih hcell)

/-- A space is a blank. -/
theorem isBlank_space : ∀ c ∈ [' '], Text.isBlank c = true := by
  simp [Text.isBlank]

/-- A space in front of a row belongs to its first cell. -/
theorem map_strip_cutCells_space (r : Text) :
    (cutCells false (' ' :: r)).map Text.strip = (cutCells false r).map Text.strip := by
  have hspace : cutCells false (' ' :: r) = match cutCells false r with
      | [] => [[' ']]
      | part :: parts => (' ' :: part) :: parts := by
    rw [cutCells, if_neg (by simp)]
    rfl
  -- every text has at least one part
  have hne : cutCells false r ≠ [] := by
    fun_cases cutCells false r <;> simp_all
  cases hparts : cutCells false r with
  | nil => exact absurd hparts hne
  | cons part parts =>
    have hstrip : Text.strip (' ' :: part) = Text.strip part :=
      Text.strip_blank_append isBlank_space part
    rw [hspace, hparts]
    simp [hstrip]

/-- Cells are got back from the row that they are joined to, but for white space around them. -/
theorem map_strip_cutCells_intercalate {cells : Row} (hne : cells ≠ [])
    (h : ∀ cell ∈ cells, ampersandsEscaped false cell = true) :
    (cutCells false (List.intercalate " & ".toList cells)).map Text.strip =
      cells.map Text.strip := by
  induction cells with
  | nil => exact absurd rfl hne
  | cons cell cells ih =>
    rw [List.forall_mem_cons] at h
    cases cells with
    | nil => rw [List.intercalate_singleton, cutCells_last h.1, List.map_singleton]
    | cons next rest =>
      have hjoin : List.intercalate " & ".toList (cell :: next :: rest) =
          cell ++ ' ' :: '&' :: ' ' :: List.intercalate " & ".toList (next :: rest) := by
        simp [List.intercalate_cons_cons]
      -- the spaces around the ampersand go to the cells on both sides, and are stripped there
      have hcell : Text.strip (cell ++ [' ']) = Text.strip cell :=
        Text.strip_append_blank cell isBlank_space
      rw [hjoin, cutCells_cell h.1, List.map_cons, map_strip_cutCells_space, hcell,
        ih (List.cons_ne_nil _ _) h.2]
      rfl

/-- The cells of a row as it is written, without the sign that ends it. -/
def readRow (line : Text) : Row :=
  (cutCells false (line.take (line.length - " \\\\".length))).map Text.strip

/-- A row is read back from its line, each cell stripped. -/
theorem readRow_writeRow {row : Row} (hne : row ≠ []) (h : ∀ cell ∈ row, IsCell cell) :
    readRow (writeRow row) = row.map Text.strip := by
  have hcells : ∀ cell ∈ row.map Text.strip, ampersandsEscaped false cell = true := by
    intro cell hcell
    obtain ⟨source, hsource, rfl⟩ := List.mem_map.1 hcell
    exact (h source hsource).strip.escaped
  have hstripped : (row.map Text.strip).map Text.strip = row.map Text.strip := by
    rw [List.map_map]
    exact List.map_congr_left fun cell _ => Text.strip_strip cell
  have hend : ∀ t : Text, (t ++ " \\\\".toList).length - " \\\\".length = t.length := by
    intro t
    rw [List.length_append]
    exact Nat.add_sub_cancel _ _
  rw [readRow, writeRow, hend, List.take_left, map_strip_cutCells_intercalate (by simpa using hne)
    hcells, hstripped]

/-! ## Lines -/

/-- The property of being on one line. -/
theorem compositional_oneLine : Text.Compositional fun t => '\n' ∉ t where
  nil := List.not_mem_nil
  append := fun hs ht hmem => (List.mem_append.1 hmem).elim hs ht

/-- A row is written on one line. -/
theorem lineFeed_not_mem_writeRow {row : Row} (h : ∀ cell ∈ row, IsCell cell) :
    '\n' ∉ writeRow row := by
  refine compositional_oneLine.append
    (compositional_oneLine.intercalate (by decide) fun cell hcell => ?_) (by decide)
  obtain ⟨source, hsource, rfl⟩ := List.mem_map.1 hcell
  exact (h source hsource).strip.line

/-- The line that opens the table is one line, whatever its columns are. -/
theorem lineFeed_not_mem_openingLine {a : Analysis} {environment : Environment} {spec : Text}
    (h : columnSpec a environment = .ok spec) : '\n' ∉ openingLine environment spec := by
  have hchar : ∀ c, isSpecChar c = true → '\n' ≠ c := by
    rintro c hc rfl
    exact absurd hc (by decide)
  have hspec : '\n' ∉ spec := by
    refine holds_columnSpec compositional_oneLine (fun c hc => ?_) (fun t ht => ?_) h
    · simpa using hchar c hc
    · have hwidth : '\n' ∉ t := fun hmem => hchar '\n' (ht '\n' hmem) rfl
      simp [Tex.braced, hwidth]
  cases environment <;> simp [openingLine, Tex.braced, hspec] <;> decide

/-! ## Whole tables -/

/-- The header row and the other rows of a table, read from its code. -/
def readCode (code : Text) : Option (Row × List Row) :=
  match ((Text.splitAt '\n' code).drop 2).dropLast.dropLast with
  | header :: _ :: body => some (readRow header, body.map readRow)
  | _ => none

/-- A table whose rows can be told from its code: each has cells, and its cells are told apart. -/
def Legible (rows : List Row) : Prop :=
  ∀ row ∈ rows, row ≠ [] ∧ ∀ cell ∈ row, IsCell cell

instance (rows : List Row) : Decidable (Legible rows) :=
  inferInstanceAs (Decidable (∀ row ∈ rows, row ≠ [] ∧ ∀ cell ∈ row, IsCell cell))

/-- The lines of a table are told apart, and each is what its place says. -/
theorem readCode_assemble (style : Style) {a : Analysis} {environment : Environment} {spec : Text}
    (hspec : columnSpec a environment = .ok spec) {header : Row} {body : List Row}
    (h : Legible (header :: body)) :
    readCode (assemble style environment spec (header :: body)) =
      some (header.map Text.strip, body.map (List.map Text.strip)) := by
  obtain ⟨hheader, hbody⟩ := List.forall_mem_cons.1 h
  have hrules : '\n' ∉ style.topRule ∧ '\n' ∉ style.headerRule ∧ '\n' ∉ style.bottomRule := by
    cases style <;> decide
  have hclosing : '\n' ∉ Tex.closing environment.name := by
    cases environment <;> decide
  have hlines : ∀ line ∈ openingLine environment spec :: style.topRule ::
      bodyLines style (header :: body) ++ [style.bottomRule, Tex.closing environment.name],
      '\n' ∉ line := by
    simp only [bodyLines, List.cons_append, List.forall_mem_cons, List.forall_mem_append,
      List.mem_map, forall_exists_index, and_imp, forall_apply_eq_imp_iff₂]
    exact ⟨lineFeed_not_mem_openingLine hspec, hrules.1, lineFeed_not_mem_writeRow hheader.2,
      hrules.2.1, fun row hrow => lineFeed_not_mem_writeRow (hbody row hrow).2, hrules.2.2,
      hclosing, by simp⟩
  have hrows : body.map (readRow ∘ writeRow) = body.map (List.map Text.strip) :=
    List.map_congr_left fun row hrow => readRow_writeRow (hbody row hrow).1 (hbody row hrow).2
  -- two lines stand in front of the rows, and two behind them
  have hbetween : ((openingLine environment spec :: style.topRule ::
      bodyLines style (header :: body) ++ [style.bottomRule, Tex.closing environment.name]).drop
        2).dropLast.dropLast = writeRow header :: style.headerRule :: body.map writeRow := by
    rw [List.cons_append, List.cons_append, List.drop_succ_cons, List.drop_succ_cons,
      List.drop_zero, List.append_cons, List.dropLast_concat, List.dropLast_concat]
    rfl
  rw [readCode, assemble, Text.splitAt_intercalate_self (by simp) hlines, hbetween]
  simp [readRow_writeRow hheader.1 hheader.2, hrows]

/-- **The code of a table tells its rows**, whatever the options, the rows that are measured and the
alignments are: the header row and the other rows, in order and each with its cells stripped. So
another table that has the same code has the same rows but for white space around cells. -/
theorem readCode_layout (options : Options) {header : Row} {body : List Row} (measured : List Row)
    (alignments : List Alignment) (h : Legible (header :: body)) :
    ∃ table, layout options (header :: body) measured alignments = .ok table ∧
      readCode table.code = some (header.map Text.strip, body.map (List.map Text.strip)) ∧
      ∀ (options' : Options) (header' : Row) (body' measured' : List Row)
        (alignments' : List Alignment) (table' : Layout), Legible (header' :: body') →
        layout options' (header' :: body') measured' alignments' = .ok table' →
        table'.code = table.code →
          header'.map Text.strip = header.map Text.strip ∧
            body'.map (List.map Text.strip) = body.map (List.map Text.strip) := by
  have hread : ∀ (options : Options) (header : Row) (body measured : List Row)
      (alignments : List Alignment), Legible (header :: body) →
      ∃ table, layout options (header :: body) measured alignments = .ok table ∧
        readCode table.code = some (header.map Text.strip, body.map (List.map Text.strip)) := by
    intro options header body measured alignments h
    obtain ⟨table, spec, hlayout, -, -, hspec, hcode, -⟩ :=
      layout_of_ne_nil options measured alignments (List.cons_ne_nil header body)
    exact ⟨table, hlayout, hcode ▸ readCode_assemble options.style hspec h⟩
  obtain ⟨table, hlayout, hrows⟩ := hread options header body measured alignments h
  refine ⟨table, hlayout, hrows, ?_⟩
  intro options' header' body' measured' alignments' table' h' hlayout' hcode
  -- the other table is read back as well, and from the same code
  obtain ⟨other, hother, hrows'⟩ := hread options' header' body' measured' alignments' h'
  obtain rfl : other = table' := Except.ok.inj (hother.symm.trans hlayout')
  rw [hcode, hrows] at hrows'
  obtain ⟨hheader, hbody⟩ := Prod.mk.inj (Option.some.inj hrows')
  exact ⟨hheader.symm, hbody.symm⟩

/-- A row that looks like a rule, a cell that looks like the end of a row, and one that ends with a
backslash. -/
def lookalikes : List Row :=
  [["a \\\\".toList, "R\\&D ".toList, []], [[], "b\\".toList]]

/-- A header that looks like a rule, a cell like the end of a row, empty ones: the table is read back all
the same. -/
theorem readCode_layout_lookalikes :
    Legible (["\\midrule".toList] :: lookalikes) ∧
      ∃ table, layout {} (["\\midrule".toList] :: lookalikes) [] [.right] = .ok table ∧
        readCode table.code = some (["\\midrule".toList],
          [["a \\\\".toList, "R\\&D".toList, []], [[], "b\\".toList]]) := by
  have hlegible : Legible (["\\midrule".toList] :: lookalikes) := by decide
  obtain ⟨table, hlayout, hread, -⟩ := readCode_layout {} [] [.right] hlegible
  refine ⟨hlegible, table, hlayout, hread.trans ?_⟩
  decide

end MarkTex.Table
