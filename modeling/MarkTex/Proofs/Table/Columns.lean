import MarkTex.Proofs.Table.Layout
import MarkTex.Proofs.Table.Width
import MarkTex.Proofs.Text.Lines

/-!
# The columns that a table declares

Measuring a table gives every column a length, an alignment and a verdict on whether it wraps, so
that the allocation of widths and the column specification find what they look up: every table is
laid out. Its specification, cut at the spaces, names one column for each cell of the longest row
(`exists_layout`), however the rows, the rows that are measured and the alignments differ in length.
-/

namespace MarkTex.Table

/-! ## The longest row -/

theorem length_le_columnCount {rows : List Row} {row : Row} (h : row ∈ rows) :
    row.length ≤ columnCount rows := by
  have hlength : row.length ∈ rows.map List.length := List.mem_map_of_mem h
  rw [columnCount, List.foldl_max, Nat.zero_max]
  exact List.le_max?_getD_of_mem hlength

/-- Some row has as many cells as there are columns. -/
theorem exists_length_eq_columnCount {rows : List Row} (h : rows ≠ []) :
    ∃ row ∈ rows, row.length = columnCount rows := by
  rw [columnCount, List.foldl_max, Nat.zero_max]
  cases hmax : (rows.map List.length).max? with
  | none =>
    rw [List.max?_eq_none_iff, List.map_eq_nil_iff] at hmax
    exact absurd hmax h
  | some most =>
    obtain ⟨row, hrow, hlength⟩ := List.mem_map.1 (List.max?_mem hmax)
    exact ⟨row, hrow, hlength⟩

/-! ## What measuring gives -/

section

variable (options : Options) (rows measured : List Row) (alignments : List Alignment)

/-- A column of long text: its widest cell reaches the threshold from which on columns wrap. -/
def IsLong (column : Nat) : Prop :=
  options.wrapThreshold ≤ columnLength measured column

instance (column : Nat) : Decidable (IsLong options measured column) :=
  inferInstanceAs (Decidable (options.wrapThreshold ≤ columnLength measured column))

variable {options rows measured alignments}

/-- A column is long if it is one of the table and its cells reach the threshold. -/
theorem mem_longColumns {column : Nat} :
    column ∈ (analyze options rows measured alignments).longColumns ↔
      column < columnCount rows ∧ IsLong options measured column := by
  simp only [analyze, List.mem_filter, List.mem_range, decide_eq_true_eq]
  refine and_congr_right fun hcolumn => ?_
  rw [List.getD_eq_getElem?_getD, List.getElem?_map, List.getElem?_range hcolumn]
  rfl

theorem contains_long {column : Nat} (h : column < columnCount rows) :
    (analyze options rows measured alignments).columns.long.contains (column : Int) =
      decide (IsLong options measured column) := by
  rw [Bool.eq_iff_iff, List.contains_iff_mem, decide_eq_true_eq]
  show (column : Int) ∈ List.map Int.ofNat _ ↔ _
  rw [List.mem_map]
  constructor
  · rintro ⟨other, hother, heq⟩
    obtain rfl : other = column := Int.ofNat.inj heq
    exact (mem_longColumns.1 hother).2
  · intro hlong
    exact ⟨column, mem_longColumns.2 ⟨h, hlong⟩, rfl⟩

/-- Every column has an alignment, to the left if none is named. -/
theorem getElem?_alignments {column : Nat} (h : column < columnCount rows) :
    (analyze options rows measured alignments).columns.alignments[column]? =
      some (alignments.getD column .left) := by
  show ((List.range (columnCount rows)).map fun column => alignments.getD column .left)[column]? = _
  rw [List.getElem?_map, List.getElem?_range h, Option.map_some]

theorem length_lengths :
    (analyze options rows measured alignments).columns.lengths.length = columnCount rows := by
  show (List.map Int.ofNat (List.map _ (List.range (columnCount rows)))).length = _
  rw [List.length_map, List.length_map, List.length_range]

/-- The lengths of a measured table can be shared among its long columns. -/
theorem exists_widths (options : Options) (rows measured : List Row)
    (alignments : List Alignment) :
    ∃ allocated,
      widths (analyze options rows measured alignments).columns.lengths
        (analyze options rows measured alignments).columns.long = .ok allocated ∧
      allocated.length = columnCount rows := by
  have hlengths : ∀ length ∈ (analyze options rows measured alignments).columns.lengths,
      0 ≤ length := by
    intro length hlength
    obtain ⟨n, -, rfl⟩ := List.mem_map.1 hlength
    exact Int.natCast_nonneg n
  have hlong : ∀ i ∈ (analyze options rows measured alignments).columns.long,
      0 ≤ i ∧ i < (analyze options rows measured alignments).columns.lengths.length := by
    intro i hi
    -- a column that is listed as long is one of the table
    obtain ⟨column, hcolumn, rfl⟩ := List.mem_map.1 hi
    have hcount := (mem_longColumns.1 hcolumn).1
    rw [length_lengths]
    exact ⟨Int.natCast_nonneg column, Int.ofNat_lt.2 hcount⟩
  obtain ⟨allocated, hallocated, hcount⟩ := exists_widthsOver Float hlengths hlong
  exact ⟨allocated, hallocated, hcount.trans length_lengths⟩

/-- Columns share the width that is left only in a table that is neither long nor wide, and in
which some column wraps. -/
theorem environment_eq_tabularx
    (h : (analyze options rows measured alignments).environment = .tabularx) :
    columnCount rows ≤ mostShared ∧ rows.length ≤ longestOnPage ∧
      ∃ column < columnCount rows, IsLong options measured column := by
  rw [Analysis.environment] at h
  split at h
  · exact nomatch h
  rename_i hrows
  split at h
  · exact nomatch h
  rename_i hlong
  split at h
  · rename_i hcount
    refine ⟨hcount, Nat.not_lt.1 hrows, ?_⟩
    -- the space is shared only where some column is long
    have hsome : (analyze options rows measured alignments).longColumns ≠ [] := by
      intro hnone
      apply hlong
      show (!!(analyze options rows measured alignments).longColumns.isEmpty) = true
      rw [hnone]
      rfl
    obtain ⟨column, hcolumn⟩ := List.exists_mem_of_ne_nil _ hsome
    exact ⟨column, mem_longColumns.1 hcolumn⟩
  · exact nomatch h

/-! ## The specification of a measured table -/

/-- A column among others that share the width that is left. -/
def sharedColumn (options : Options) (measured : List Row) (alignments : List Alignment)
    (column : Nat) : Text :=
  if IsLong options measured column then ['X'] else [(alignments.getD column .left).letter]

/-- A column to which a width is allocated if it wraps. -/
def boxedColumn (options : Options) (measured : List Row) (alignments : List Alignment)
    (allocated : List Nat) (column : Nat) : Text :=
  if IsLong options measured column ∧ 0 < allocated.getD column 0 then
    (alignments.getD column .left).box ::
      Tex.braced (writeWidth (allocated.getD column 0) ++ "\\textwidth".toList)
  else [(alignments.getD column .left).letter]

/-- A column that shares the space is looked up without fail. -/
theorem shared_eq {column : Nat} (h : column < columnCount rows) :
    (analyze options rows measured alignments).columns.shared column =
      .ok (sharedColumn options measured alignments column) := by
  rw [Columns.shared, contains_long h, getElem?_alignments h, sharedColumn]
  by_cases hlong : IsLong options measured column
  · rw [if_pos (decide_eq_true hlong), if_pos hlong]
  · rw [if_neg (mt of_decide_eq_true hlong), if_neg hlong]

/-- A column of its own width is looked up without fail. -/
theorem boxed_eq {allocated : List Nat} (hallocated : allocated.length = columnCount rows)
    {column : Nat} (h : column < columnCount rows) :
    (analyze options rows measured alignments).columns.boxed allocated column =
      .ok (boxedColumn options measured alignments allocated column) := by
  have hwidth : allocated[column]? = some (allocated.getD column 0) := by
    rw [List.getD_eq_getElem?_getD, List.getElem?_eq_getElem (by omega), Option.getD_some]
  rw [Columns.boxed, contains_long h, getElem?_alignments h, hwidth, boxedColumn]
  dsimp only
  by_cases hlong : IsLong options measured column
  · rw [if_pos (decide_eq_true hlong)]
    by_cases hpos : 0 < allocated.getD column 0
    · rw [if_pos hpos, if_pos ⟨hlong, hpos⟩]
    · rw [if_neg hpos, if_neg fun hboth => hpos hboth.2]
  · rw [if_neg (mt of_decide_eq_true hlong), if_neg fun hboth => hlong hboth.1]

end

/-! ## Declared columns -/

/-- The columns that a specification declares: what stands between its spaces. -/
def declared (spec : Text) : List Text :=
  if spec.isEmpty then [] else Text.splitAt ' ' spec

/-- A column that shares the space is written in one of the three forms. -/
theorem isColumn_sharedColumn (options : Options) (measured : List Row)
    (alignments : List Alignment) (column : Nat) :
    IsColumn (sharedColumn options measured alignments column) := by
  rw [sharedColumn]
  split
  · exact .shared
  · exact .letter _

/-- A column of its own width is written in one of the three forms. -/
theorem isColumn_boxedColumn (options : Options) (measured : List Row)
    (alignments : List Alignment) (allocated : List Nat) (column : Nat) :
    IsColumn (boxedColumn options measured alignments allocated column) := by
  rw [boxedColumn]
  split
  · exact .box _ _
  · exact .letter _

/-- A column is written in one piece. -/
theorem IsColumn.space_not_mem {column : Text} (h : IsColumn column) :
    column ≠ [] ∧ ' ' ∉ column := by
  cases h with
  | shared => exact ⟨List.cons_ne_nil _ _, by decide⟩
  | letter alignment => exact ⟨List.cons_ne_nil _ _, by cases alignment <;> decide⟩
  | box alignment width =>
    refine ⟨List.cons_ne_nil _ _, fun hspace => ?_⟩
    have hbox : ' ' ≠ alignment.box := by cases alignment <;> decide
    have hwidth : ' ' ∉ writeWidth width := fun hmem =>
      absurd (isWidthChar_writeWidth width ' ' hmem) (by decide)
    simp [Tex.braced, hbox, hwidth] at hspace

/-- Columns that are joined by spaces are the columns that are declared. -/
theorem declared_intercalate {columns : List Text} (h : ∀ column ∈ columns, IsColumn column) :
    declared (List.intercalate [' '] columns) = columns := by
  rw [declared]
  cases columns with
  | nil => rfl
  | cons first columns =>
    have hspaces : ∀ column ∈ first :: columns, ' ' ∉ column := fun column hcolumn =>
      (h column hcolumn).space_not_mem.2
    rw [Text.splitAt_intercalate_self (List.cons_ne_nil _ _) hspaces, if_neg]
    rw [Text.intercalate_cons, List.isEmpty_iff]
    exact fun hnil => (h first List.mem_cons_self).space_not_mem.1 (List.append_eq_nil_iff.1 hnil).1

theorem mapM_ok {α β ε : Type} {f : α → Except ε β} {g : α → β} {items : List α}
    (h : ∀ item ∈ items, f item = .ok (g item)) : items.mapM f = .ok (items.map g) := by
  induction items with
  | nil => rfl
  | cons item items ih =>
    rw [List.forall_mem_cons] at h
    rw [List.mapM_cons, h.1, ih h.2]
    rfl

/-! ## Tables of rows -/

/-- What the specification of a table declares: as many columns as the longest row has cells. Where
the width that is left is shared, those columns take part that wrap, and there is one. Elsewhere a
column has a box if it wraps and a width is allocated to it. -/
structure Declares (options : Options) (rows measured : List Row) (alignments : List Alignment)
    (environment : Environment) (spec : Text) : Prop where
  count : (declared spec).length = columnCount rows
  shared : environment = .tabularx →
    columnCount rows ≤ 5 ∧ rows.length ≤ 30 ∧ ['X'] ∈ declared spec ∧
      ∀ column < columnCount rows, (declared spec)[column]? =
        some (sharedColumn options measured alignments column)
  boxed : environment ≠ .tabularx →
    ∃ allocated,
      widths (analyze options rows measured alignments).columns.lengths
        (analyze options rows measured alignments).columns.long = .ok allocated ∧
      allocated.length = columnCount rows ∧
      ∀ column < columnCount rows, (declared spec)[column]? =
        some (boxedColumn options measured alignments allocated column)

section

variable {options : Options} {rows measured : List Row} {alignments : List Alignment}

/-- The specification of a table that shares the space has a column for each cell of the longest
row. -/
theorem columnSpec_tabularx :
    columnSpec (analyze options rows measured alignments) .tabularx =
      .ok (List.intercalate [' ']
        ((List.range (columnCount rows)).map (sharedColumn options measured alignments))) := by
  have hspecs : (analyze options rows measured alignments).columns.specs .tabularx =
      .ok ((List.range (columnCount rows)).map (sharedColumn options measured alignments)) :=
    mapM_ok fun column hcolumn => shared_eq (List.mem_range.1 hcolumn)
  rw [columnSpec, Columns.spec, hspecs]
  rfl

/-- The specification of any other table has them too, with their own widths. -/
theorem columnSpec_of_ne_tabularx {environment : Environment} (h : environment ≠ .tabularx)
    {allocated : List Nat}
    (hallocated : widths (analyze options rows measured alignments).columns.lengths
      (analyze options rows measured alignments).columns.long = .ok allocated)
    (hcount : allocated.length = columnCount rows) :
    columnSpec (analyze options rows measured alignments) environment =
      .ok (List.intercalate [' ']
        ((List.range (columnCount rows)).map
          (boxedColumn options measured alignments allocated))) := by
  have hspecs : (analyze options rows measured alignments).columns.specs environment =
      .ok ((List.range (columnCount rows)).map
        (boxedColumn options measured alignments allocated)) := by
    rw [Columns.specs.eq_2 _ _ h, hallocated]
    exact mapM_ok fun column hcolumn => boxed_eq hcount (List.mem_range.1 hcolumn)
  rw [columnSpec, Columns.spec, hspecs]
  rfl

/-- The columns `0`, …, `n - 1` are declared by joining them. -/
theorem declared_range {column : Nat → Text} (hcolumn : ∀ index, IsColumn (column index))
    (n : Nat) :
    (declared (List.intercalate [' '] ((List.range n).map column))).length = n ∧
      ∀ index < n,
        (declared (List.intercalate [' '] ((List.range n).map column)))[index]? =
          some (column index) := by
  have hcolumns : ∀ text ∈ (List.range n).map column, IsColumn text := by
    intro text htext
    obtain ⟨index, -, rfl⟩ := List.mem_map.1 htext
    exact hcolumn index
  rw [declared_intercalate hcolumns]
  refine ⟨by rw [List.length_map, List.length_range], fun index hindex => ?_⟩
  rw [List.getElem?_map, List.getElem?_range hindex, Option.map_some]

/-- A measured table has a column specification in the environment that its measures ask for. -/
theorem exists_declares (options : Options) (rows measured : List Row)
    (alignments : List Alignment) :
    ∃ spec,
      columnSpec (analyze options rows measured alignments)
        (analyze options rows measured alignments).environment = .ok spec ∧
      Declares options rows measured alignments
        (analyze options rows measured alignments).environment spec := by
  by_cases henvironment : (analyze options rows measured alignments).environment = .tabularx
  · obtain ⟨hcolumns, hrows, column, hcolumn, hlong⟩ := environment_eq_tabularx henvironment
    obtain ⟨hcount, hdeclared⟩ := declared_range
      (isColumn_sharedColumn options measured alignments) (columnCount rows)
    rw [henvironment]
    refine ⟨_, columnSpec_tabularx, hcount, fun _ => ⟨hcolumns, hrows, ?_, hdeclared⟩,
      fun hne => absurd rfl hne⟩
    -- the long column is the one that takes the space
    apply List.mem_of_getElem?
    rw [hdeclared column hcolumn, sharedColumn, if_pos hlong]
  · obtain ⟨allocated, hallocated, hlength⟩ :=
      exists_widths options rows measured alignments
    obtain ⟨hcount, hdeclared⟩ := declared_range
      (isColumn_boxedColumn options measured alignments allocated) (columnCount rows)
    exact ⟨_, columnSpec_of_ne_tabularx henvironment hallocated hlength, hcount,
      fun heq => absurd heq henvironment,
      fun _ => ⟨allocated, hallocated, hlength, hdeclared⟩⟩

/-- A table with rows is assembled from the column specification of its measures. -/
theorem layout_of_ne_nil (options : Options) {rows : List Row} (measured : List Row)
    (alignments : List Alignment) (h : rows ≠ []) :
    ∃ table spec,
      layout options rows measured alignments = .ok table ∧
      table.analysis = some (analyze options rows measured alignments) ∧
      table.environment = (analyze options rows measured alignments).environment ∧
      columnSpec (analyze options rows measured alignments) table.environment = .ok spec ∧
      table.code = assemble options.style table.environment spec rows ∧
      table.packages = packages options.style table.environment ∧
      Declares options rows measured alignments table.environment spec := by
  obtain ⟨spec, hspec, hdeclares⟩ := exists_declares options rows measured alignments
  rw [layout, if_neg (mt List.isEmpty_iff.1 h)]
  simp only [hspec, bind, Except.bind, pure, Except.pure]
  exact ⟨_, spec, rfl, rfl, rfl, hspec, rfl, rfl, hdeclares⟩

/-- Any table is laid out. -/
theorem exists_layout_eq_ok (options : Options) (rows measured : List Row)
    (alignments : List Alignment) :
    ∃ table, layout options rows measured alignments = .ok table := by
  by_cases h : rows = []
  · rw [h]
    exact ⟨_, rfl⟩
  · obtain ⟨table, -, hlayout, -⟩ := layout_of_ne_nil options measured alignments h
    exact ⟨table, hlayout⟩

/-- **Every table with rows is laid out, and declares its columns**: as many as the longest row has
cells, so that no row has a cell for which no column is declared. -/
theorem exists_layout (options : Options) {rows : List Row} (measured : List Row)
    (alignments : List Alignment) (h : rows ≠ []) :
    ∃ table spec,
      layout options rows measured alignments = .ok table ∧
      table.analysis = some (analyze options rows measured alignments) ∧
      table.code = assemble options.style table.environment spec rows ∧
      (∃ row ∈ rows, row.length = columnCount rows) ∧
      (∀ row ∈ rows, row.length ≤ (declared spec).length) ∧
      Declares options rows measured alignments table.environment spec := by
  obtain ⟨table, spec, hlayout, hanalysis, -, -, hcode, -, hdeclares⟩ :=
    layout_of_ne_nil options measured alignments h
  refine ⟨table, spec, hlayout, hanalysis, hcode, exists_length_eq_columnCount h, ?_, hdeclares⟩
  intro row hrow
  rw [hdeclares.count]
  exact length_le_columnCount hrow

/-- A header of three cells, a row of one and a row of none; one row is measured in their place. -/
theorem exists_layout_ragged :
    let rows : List Row := [["a".toList, "b".toList, "c".toList], ["d".toList], []]
    let measured : List Row := [["a long cell that is to wrap".toList]]
    rows ≠ [] ∧
      ∃ table spec,
        layout {} rows measured [.right] = .ok table ∧
        table.analysis = some (analyze {} rows measured [.right]) ∧
        table.code = assemble .booktabs table.environment spec rows ∧
        (∃ row ∈ rows, row.length = 3) ∧
        (∀ row ∈ rows, row.length ≤ (declared spec).length) ∧
        Declares {} rows measured [.right] table.environment spec :=
  ⟨List.cons_ne_nil _ _, exists_layout {} _ [.right] (List.cons_ne_nil _ _)⟩

end

end MarkTex.Table
