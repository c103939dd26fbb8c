import Mathlib.Order.Basic
import MarkTex.Proofs.Table.Columns

/-!
# What the measures of a table depend on

The measures of a table fit together: there is one length and one alignment for each column, and the
long columns are those whose lengths reach the threshold, from left to right (`Coherent`). The order
of rows does not matter to them, neither of those that are set nor of those that are measured. More
rows only make columns longer, and a higher threshold only makes fewer of them long
(`coherent_measures`).

## Shape of the proof

The count of columns and the length of a column are both the most that some row has, so what they
are at most is what each row has at most (`columnCount_le_iff`, `columnLength_le_iff`). From this
alone they depend on which rows there are and grow with them.
-/

namespace MarkTex.Table

/-! ## The most that a row has -/

/-- The most of some counts is at most a number if each of them is. -/
theorem foldl_max_le_iff {counts : List Nat} {n : Nat} :
    counts.foldl max 0 ≤ n ↔ ∀ count ∈ counts, count ≤ n := by
  rw [List.foldl_max, Nat.zero_max]
  cases hmax : counts.max? with
  | none =>
    rw [List.max?_eq_none_iff] at hmax
    simp [hmax]
  | some most => exact List.max?_le_iff hmax

/-- There are at most so many columns if each row has at most so many cells. -/
theorem columnCount_le_iff {rows : List Row} {n : Nat} :
    columnCount rows ≤ n ↔ ∀ row ∈ rows, row.length ≤ n := by
  rw [columnCount, foldl_max_le_iff, List.forall_mem_map]

/-- A column is at most so long if its cell is in each row. -/
theorem columnLength_le_iff {rows : List Row} {column n : Nat} :
    columnLength rows column ≤ n ↔ ∀ row ∈ rows, cellWidth column row ≤ n := by
  rw [columnLength, foldl_max_le_iff, List.forall_mem_map]

section

variable {rows others : List Row}

/-- More rows have no fewer columns. -/
theorem columnCount_mono (h : rows ⊆ others) : columnCount rows ≤ columnCount others :=
  columnCount_le_iff.2 fun _ hrow => columnCount_le_iff.1 (le_refl _) _ (h hrow)

/-- No column gets shorter where more rows are measured. -/
theorem columnLength_mono (h : rows ⊆ others) (column : Nat) :
    columnLength rows column ≤ columnLength others column :=
  columnLength_le_iff.2 fun _ hrow => columnLength_le_iff.1 (le_refl _) _ (h hrow)

/-- The number of columns does not depend on the order of the rows. -/
theorem columnCount_perm (h : rows.Perm others) : columnCount rows = columnCount others :=
  le_antisymm (columnCount_mono h.subset) (columnCount_mono h.symm.subset)

/-- The length of a column does not depend on the order of the rows. -/
theorem columnLength_perm (h : rows.Perm others) (column : Nat) :
    columnLength rows column = columnLength others column :=
  le_antisymm (columnLength_mono h.subset column) (columnLength_mono h.symm.subset column)

end

/-! ## Measures that fit together -/

/-- Measures fit together: they have a length and an alignment for each column, the total of the
lengths, and the columns whose lengths reach the threshold, from left to right. -/
structure Coherent (options : Options) (a : Analysis) : Prop where
  lengths : a.lengths.length = a.columnCount
  alignments : a.alignments.length = a.columnCount
  total : a.totalLength = a.lengths.sum
  ordered : a.longColumns.Pairwise (· < ·)
  long : ∀ column, column ∈ a.longColumns ↔
    ∃ length, a.lengths[column]? = some length ∧ options.wrapThreshold ≤ length
  hasLong : a.hasLongText = true ↔ a.longColumns ≠ []

/-- The measures of a table that got one more row: no column became shorter, and what was long is
long. -/
structure Widens (a b : Analysis) : Prop where
  lengths : ∀ column length : Nat, a.lengths[column]? = some length →
    ∃ longer, b.lengths[column]? = some longer ∧ length ≤ longer
  long : a.longColumns ⊆ b.longColumns

section

variable (options : Options) (rows measured : List Row) (alignments : List Alignment)

/-- The lengths of an analysis are those of the columns there are. -/
theorem getElem?_lengths (column : Nat) :
    (analyze options rows measured alignments).lengths[column]? =
      if column < columnCount rows then some (columnLength measured column) else none := by
  show ((List.range (columnCount rows)).map (columnLength measured))[column]? = _
  rw [List.getElem?_map]
  by_cases hcolumn : column < columnCount rows
  · rw [List.getElem?_range hcolumn, if_pos hcolumn]
    rfl
  · rw [List.getElem?_eq_none (by rw [List.length_range]; omega), if_neg hcolumn]
    rfl

/-- The length of a column that there is. -/
theorem getElem?_lengths_eq_some {column length : Nat} :
    (analyze options rows measured alignments).lengths[column]? = some length ↔
      column < columnCount rows ∧ columnLength measured column = length := by
  rw [getElem?_lengths]
  split
  · rename_i hcolumn
    rw [Option.some_inj, and_iff_right hcolumn]
  · rename_i hcolumn
    exact ⟨fun h => (nomatch h), fun h => absurd h.1 hcolumn⟩

/-- The measures of a table fit together. -/
theorem coherent_of_analyze : Coherent options (analyze options rows measured alignments) where
  lengths := by simp [analyze]
  alignments := by simp [analyze]
  total := rfl
  ordered := List.pairwise_lt_range.filter _
  long column := by
    rw [mem_longColumns]
    simp only [getElem?_lengths_eq_some]
    constructor
    · rintro ⟨hcolumn, hlong⟩
      exact ⟨_, ⟨hcolumn, rfl⟩, hlong⟩
    · rintro ⟨_, ⟨hcolumn, rfl⟩, hlong⟩
      exact ⟨hcolumn, hlong⟩
  hasLong := by simp [analyze]

end

section

variable {options higher : Options} {rows others measured measuredToo : List Row}
  {alignments : List Alignment}

/-- The order of the rows does not matter, nor does that of the rows that are measured. -/
theorem analyze_perm (hrows : rows.Perm others) (hmeasured : measured.Perm measuredToo) :
    analyze options others measuredToo alignments =
      analyze options rows measured alignments := by
  have hlengths : columnLength measuredToo = columnLength measured := by
    funext column
    exact (columnLength_perm hmeasured column).symm
  rw [analyze, analyze, ← columnCount_perm hrows, hlengths, ← hrows.length_eq]

/-- A table with more rows, of which more are measured, has measures that are no smaller. -/
theorem widens_of_subset (hrows : rows ⊆ others) (hmeasured : measured ⊆ measuredToo) :
    Widens (analyze options rows measured alignments)
      (analyze options others measuredToo alignments) where
  lengths column length hlength := by
    rw [getElem?_lengths_eq_some] at hlength
    obtain ⟨hcolumn, rfl⟩ := hlength
    refine ⟨columnLength measuredToo column, ?_, columnLength_mono hmeasured column⟩
    rw [getElem?_lengths_eq_some]
    exact ⟨hcolumn.trans_le (columnCount_mono hrows), rfl⟩
  long column hcolumn := by
    rw [mem_longColumns] at hcolumn ⊢
    obtain ⟨hcount, hlong⟩ := hcolumn
    have hlonger := columnLength_mono hmeasured column
    exact ⟨hcount.trans_le (columnCount_mono hrows), hlong.trans hlonger⟩

/-- A column that reaches a threshold reaches any lower one. -/
theorem longColumns_subset (h : options.wrapThreshold ≤ higher.wrapThreshold) :
    (analyze higher rows measured alignments).longColumns ⊆
      (analyze options rows measured alignments).longColumns := by
  intro column hcolumn
  rw [mem_longColumns] at hcolumn ⊢
  obtain ⟨hcount, hlong⟩ := hcolumn
  exact ⟨hcount, h.trans hlong⟩

end

/-! ## Alignments given by name -/

/-- The names of the alignments that there are. -/
def alignmentNames : List String :=
  [Alignment.left, .center, .right].map Alignment.name

/-- The name of a column's alignment, where those of the first columns were given by name: what was
given if there is such an alignment, and otherwise that of the left. -/
def alignmentOf (names : List String) (column : Nat) : String :=
  let name := names.getD column Alignment.left.name
  if name ∈ alignmentNames then name else Alignment.left.name

/-- The alignment of a column is one of the three. -/
theorem alignmentOf_mem (names : List String) (column : Nat) :
    alignmentOf names column ∈ alignmentNames := by
  rw [alignmentOf]
  split
  · assumption
  · exact List.mem_cons_self

/-- A name that is none of the three stands for the left. -/
theorem name_ofName (name : String) :
    (Alignment.ofName name).name = if name ∈ alignmentNames then name else Alignment.left.name := by
  rw [Alignment.ofName]
  by_cases hcenter : name = "center"
  · rw [if_pos hcenter, hcenter]
    rfl
  rw [if_neg hcenter]
  by_cases hright : name = "right"
  · rw [if_pos hright, hright]
    rfl
  rw [if_neg hright]
  split
  · rename_i hmem
    simpa [alignmentNames, Alignment.name, hcenter, hright, eq_comm] using hmem
  · rfl

/-- The measures of a table whose alignments are given by name. -/
def measures (options : Options) (rows measured : List Row) (names : List String) : Analysis :=
  analyze options rows measured (names.map Alignment.ofName)

/-- The alignment of a column is the one that is named for it, if it is one. -/
theorem name_of_measures {options : Options} {rows measured : List Row} {names : List String}
    {column : Nat} (h : column < columnCount rows) :
    (measures options rows measured names).alignments[column]?.map Alignment.name =
      some (alignmentOf names column) := by
  have hleft : Alignment.ofName Alignment.left.name = .left := rfl
  have halignment : (measures options rows measured names).alignments[column]? =
      some ((names.map Alignment.ofName).getD column .left) :=
    @getElem?_alignments options rows measured _ column h
  rw [halignment, Option.map_some, ← hleft, List.getD_map, name_ofName]
  rfl

/-- **The measures of a table fit together and depend on what its rows are, not on their order.**
Each column has an alignment that there is, which is the given one if it can be. Neither the order
of the rows nor that of the rows that are measured matters; with one more row in both no column
becomes shorter and none stops being long; and a higher threshold makes no column long. -/
theorem coherent_measures (options : Options) (rows measured : List Row) (names : List String) :
    Coherent options (measures options rows measured names) ∧
    (∀ column < columnCount rows,
      (measures options rows measured names).alignments[column]?.map Alignment.name =
        some (alignmentOf names column) ∧ alignmentOf names column ∈ alignmentNames) ∧
    (∀ others measuredToo, rows.Perm others → measured.Perm measuredToo →
      measures options others measuredToo names = measures options rows measured names) ∧
    (∀ row other, Widens (measures options rows measured names)
      (measures options (rows ++ [row]) (measured ++ [other]) names)) ∧
    ∀ higher : Options, options.wrapThreshold ≤ higher.wrapThreshold →
      (measures higher rows measured names).longColumns ⊆
        (measures options rows measured names).longColumns := by
  refine ⟨coherent_of_analyze _ _ _ _, fun column hcolumn => ?_, ?_, fun row other => ?_, ?_⟩
  · exact ⟨name_of_measures hcolumn, alignmentOf_mem names column⟩
  · intro others measuredToo hrows hmeasured
    exact analyze_perm hrows hmeasured
  · exact widens_of_subset (List.subset_append_left ..) (List.subset_append_left ..)
  · intro higher hthreshold
    exact longColumns_subset hthreshold

/-- Two rows of different lengths change places, and so do the rows that are measured for them; an
alignment that there is not is given for the first column. -/
theorem coherent_measures_ragged :
    let first : Row := ["a".toList]
    let second : Row := ["b".toList, "a cell that is to be wrapped".toList]
    let names : List String := ["justify", "right"]
    let higher : Options := { wrapThreshold := 40 }
    ([first, second].Perm [second, first] ∧ (1 < columnCount [first, second])) ∧
      (({} : Options).wrapThreshold ≤ higher.wrapThreshold) ∧
      measures {} [second, first] [second, first] names =
        measures {} [first, second] [first, second] names ∧
      (measures {} [first, second] [first, second] names).alignments[1]?.map Alignment.name =
        some (alignmentOf names 1) ∧
      (measures higher [first, second] [first, second] names).longColumns ⊆
        (measures {} [first, second] [first, second] names).longColumns := by
  intro first second names higher
  have hperm : [first, second].Perm [second, first] := List.Perm.swap second first []
  -- only one of the rows has a second cell
  have hcolumn : 1 < columnCount [first, second] := by decide
  have hthreshold : ({} : Options).wrapThreshold ≤ higher.wrapThreshold := by decide
  obtain ⟨-, halignments, horder, -, hlong⟩ :=
    coherent_measures {} [first, second] [first, second] names
  exact ⟨⟨hperm, hcolumn⟩, hthreshold, horder _ _ hperm hperm, (halignments 1 hcolumn).1,
    hlong higher hthreshold⟩

end MarkTex.Table
