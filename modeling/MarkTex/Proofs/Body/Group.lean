import MarkTex.Proofs.Body.Cells
import MarkTex.Proofs.Body.Fault
import MarkTex.Proofs.Markdown.Balance

/-!
# Groups of cells

Whatever the tokens of a table are, and whether they are balanced or not, its rows can be told from
their positions alone (`tabulates_cells`). A group is what stands in front of a token that ends a
row, back to the nearest token that starts or ends one, or to the one that opens the table. The
groups that have cells are the rows, both as they are emitted and as they are measured. A cell
counts for the alignments if the nearest token in front of it that starts or ends a header starts
one.

## Shape of the proof

What is nearest changes from one position to the next only if the token there is of the kind that is
looked for (`lastBefore?_succ`). So the group in front of a position is what collecting has read of
the row there (`rowsFrom_take`), and likewise for the header (`alignmentsFrom_take`).
-/

namespace MarkTex.Body

open Markdown (Token closingKind findClose lengthOf)

/-! ## Positions of tokens -/

/-- The positions from `start` on and in front of `stop` at which a token passes the test. -/
def positions (tokens : List Token) (test : Token → Bool) (start stop : Nat) : List Nat :=
  (List.range' start (stop - start)).filter fun position => tokens[position]?.any test

/-- The nearest position in front of `position` and behind that of the table at which a token passes
the test. -/
def lastBefore? (tokens : List Token) (test : Token → Bool) (table position : Nat) : Option Nat :=
  (positions tokens test (table + 1) position).getLast?

section

variable {tokens : List Token} {test : Token → Bool} {start stop table position : Nat} {t : Token}

/-- A position is listed if it is in the range and its token passes the test. -/
theorem mem_positions :
    position ∈ positions tokens test start stop ↔
      start ≤ position ∧ position < stop ∧ tokens[position]?.any test = true := by
  have hbounds : start ≤ position ∧ position < start + (stop - start) ↔
      start ≤ position ∧ position < stop := by omega
  rw [positions, List.mem_filter, List.mem_range'_1, hbounds, and_assoc]

theorem positions_self : positions tokens test start start = [] := by
  rw [positions, Nat.sub_self]
  rfl

/-- The last of the positions is left out or not. -/
theorem positions_succ (ht : tokens[stop]? = some t) (h : start ≤ stop) :
    positions tokens test start (stop + 1) =
      positions tokens test start stop ++ if test t then [stop] else [] := by
  have hcount : stop + 1 - start = stop - start + 1 := by omega
  have hlast : start + (stop - start) = stop := by omega
  rw [positions, hcount, List.range'_1_concat, List.filter_append, hlast, positions]
  simp [List.filter_cons, ht]

/-- The first of the positions is left out or not. -/
theorem positions_cons (ht : tokens[start]? = some t) (h : start < stop) :
    positions tokens test start stop =
      (if test t then [start] else []) ++ positions tokens test (start + 1) stop := by
  have hcount : stop - start = stop - (start + 1) + 1 := by omega
  rw [positions, hcount, List.range'_succ, List.filter_cons, positions, ht, Option.any_some]
  split <;> rfl

/-- What is nearest is the last position of all. -/
theorem isGreatest_of_lastBefore? (h : lastBefore? tokens test table position = some start) :
    IsGreatest {other | other ∈ positions tokens test (table + 1) position} start := by
  obtain ⟨others, hothers⟩ := List.getLast?_eq_some_iff.1 h
  have hsorted : (positions tokens test (table + 1) position).Pairwise (· < ·) :=
    (List.pairwise_lt_range' ..).filter _
  rw [hothers, List.pairwise_append] at hsorted
  rw [hothers]
  refine ⟨List.mem_append_right _ List.mem_cons_self, fun other hother => ?_⟩
  rcases List.mem_append.1 hother with hbefore | hlast
  · exact (hsorted.2.2 other hbefore start List.mem_cons_self).le
  · exact (List.mem_singleton.1 hlast).le

/-- Nothing stands between a table and the position behind it. -/
theorem lastBefore?_table : lastBefore? tokens test table (table + 1) = none := by
  rw [lastBefore?, positions_self]
  rfl

/-- What is nearest in front of the next position. -/
theorem lastBefore?_succ (ht : tokens[position]? = some t) (h : table < position) :
    lastBefore? tokens test table (position + 1) =
      if test t then some position else lastBefore? tokens test table position := by
  rw [lastBefore?, positions_succ ht h]
  split
  · exact List.getLast?_concat ..
  · rw [List.append_nil, lastBefore?]

end

/-! ## Cells of a group -/

/-- Whether a token starts or ends a row. -/
def boundsRow (t : Token) : Bool :=
  t.kind = "tr_open" || t.kind = "tr_close"

/-- Whether a token ends a row. -/
def endsRow (t : Token) : Bool :=
  t.kind = "tr_close"

/-- Whether a token starts or ends a header. -/
def boundsHeader (t : Token) : Bool :=
  t.kind = "thead_open" || t.kind = "thead_close" || t.kind = "tbody_open"

section

variable (tokens : List Token) (table : Nat)

/-- Where the row is started that is read at a position: where a row starts or ends nearest in front
of it, or else where the table opens. -/
def rowStart (position : Nat) : Nat :=
  (lastBefore? tokens boundsRow table position).getD table

/-- The positions of the cells in front of a position that are in the same row. -/
def group (position : Nat) : List Nat :=
  positions tokens opensCell (rowStart tokens table position + 1) position

/-- The groups with cells that end at the given positions. -/
def filledGroups (ends : List Nat) : List (List Nat) :=
  (ends.map (group tokens table)).filter (!·.isEmpty)

/-- Whether a header is read at a position: of the tokens that start or end one, the nearest in
front of it starts one. -/
def inHeader (position : Nat) : Bool :=
  (lastBefore? tokens boundsHeader table position).any fun start =>
    tokens[start]?.any (·.kind = "thead_open")

/-- The inline token directly behind a position, if there is one. -/
def inlineAfter? (position : Nat) : Option Token :=
  tokens[position + 1]?.filter (·.kind = "inline")

/-- The children of the inline token directly behind a position. -/
def childrenAfter (position : Nat) : List Token :=
  ((inlineAfter? tokens position).map Token.inlines).getD []

/-- The text directly behind a position as it is emitted, if there is one. -/
def emittedAfter (position : Nat) : Text :=
  ((inlineAfter? tokens position).map fun t => (renderInlines t.inlines).text).getD []

/-- The text directly behind a position as it is measured, if there is one. -/
def measuredAfter (position : Nat) : Text :=
  ((inlineAfter? tokens position).map fun t => plainText t.inlines).getD []

/-- The alignment of the cell at a position. -/
def alignmentAt (position : Nat) : Table.Alignment :=
  (tokens[position]?.map cellAlignment).getD .left

end

section

variable {tokens : List Token} {table position : Nat} {t : Token}

theorem filledGroups_append (ends more : List Nat) :
    filledGroups tokens table (ends ++ more) =
      filledGroups tokens table ends ++ filledGroups tokens table more := by
  rw [filledGroups, List.map_append, List.filter_append]
  rfl

/-- The running text that a token is followed by is read off behind its position. -/
theorem nextInlines_drop (position : Nat) :
    nextInlines (tokens.drop (position + 1)) = childrenAfter tokens position := by
  rw [childrenAfter, inlineAfter?, ← List.head?_drop]
  cases tokens.drop (position + 1) with
  | nil => rfl
  | cons t rest =>
    rw [nextInlines, List.head?_cons, Option.filter_some]
    by_cases hkind : t.kind = "inline"
    · simp [hkind]
    · simp [hkind]

/-- A text that is read from children is read from those of the inline token, if there is one. -/
theorem map_childrenAfter {read : List Token → Text} (h : read [] = []) (cells : List Nat) :
    (cells.map (childrenAfter tokens)).map read =
      cells.map fun position =>
        ((inlineAfter? tokens position).map fun t => read t.inlines).getD [] := by
  rw [List.map_map]
  refine List.map_congr_left fun position _ => ?_
  rw [Function.comp_apply, childrenAfter]
  cases inlineAfter? tokens position with
  | none => exact h
  | some t => rfl

/-! ## From one position to the next -/

/-- A row starts in front of every position it is asked for. -/
theorem rowStart_lt (h : table < position) : rowStart tokens table position < position := by
  rw [rowStart]
  cases hlast : lastBefore? tokens boundsRow table position with
  | none => exact h
  | some start => exact (mem_positions.1 (isGreatest_of_lastBefore? hlast).1).2.1

/-- A token that starts or ends a row is where the row behind it starts; any other token leaves the
start where it was. -/
theorem rowStart_succ (ht : tokens[position]? = some t) (h : table < position) :
    rowStart tokens table (position + 1) =
      if boundsRow t then position else rowStart tokens table position := by
  rw [rowStart, lastBefore?_succ ht h]
  split <;> rfl

/-- A token that starts or ends a row ends the group, and one that opens a cell joins it. -/
theorem group_succ (ht : tokens[position]? = some t) (h : table < position) :
    group tokens table (position + 1) =
      if boundsRow t then []
      else group tokens table position ++ if opensCell t then [position] else [] := by
  rw [group, rowStart_succ ht h]
  split
  · exact positions_self
  · exact positions_succ ht (rowStart_lt h)

/-- Right behind the token that opens a table there is no cell yet. -/
theorem group_table : group tokens table (table + 1) = [] := by
  rw [group, rowStart, lastBefore?_table]
  exact positions_self

/-- A token that starts or ends a header settles whether a header goes on behind it; any other
leaves this as it was. -/
theorem inHeader_succ (ht : tokens[position]? = some t) (h : table < position) :
    inHeader tokens table (position + 1) =
      if boundsHeader t then decide (t.kind = "thead_open")
      else inHeader tokens table position := by
  rw [inHeader, lastBefore?_succ ht h]
  split
  · rw [Option.any_some, ht, Option.any_some]
  · rfl

/-- A table does not start inside a header. -/
theorem inHeader_table : inHeader tokens table (table + 1) = false := by
  rw [inHeader, lastBefore?_table]
  rfl

/-! ## Reading the rows -/

/-- A token may end a row, which is kept if it has cells, start one and open a cell. -/
theorem rowsFrom_cons (row : List (List Token)) (t : Token) (rest : List Token) :
    rowsFrom row (t :: rest) =
      (if endsRow t then [row].filter (!·.isEmpty) else []) ++
        rowsFrom (if boundsRow t then [] else row ++ if opensCell t then [nextInlines rest] else [])
          rest := by
  rw [rowsFrom, endsRow, boundsRow]
  by_cases hopen : t.kind = "tr_open"
  · simp [hopen]
  by_cases hclose : t.kind = "tr_close"
  · cases row <;> simp [hclose]
  · cases opensCell t <;> simp [hopen, hclose]

/-- A token may be a header cell, and start or end a header. -/
theorem alignmentsFrom_cons (header : Bool) (t : Token) (rest : List Token) :
    alignmentsFrom header (t :: rest) =
      (if t.kind = "th_open" then if header then [cellAlignment t] else [] else []) ++
        alignmentsFrom (if boundsHeader t then decide (t.kind = "thead_open") else header)
          rest := by
  rw [alignmentsFrom, boundsHeader]
  by_cases hhead : t.kind = "thead_open"
  · simp [hhead]
  by_cases hbody : t.kind = "thead_close" ∨ t.kind = "tbody_open"
  · rcases hbody with h | h <;> simp [h]
  rw [not_or] at hbody
  by_cases hcell : t.kind = "th_open"
  · cases header <;> simp [hcell]
  · simp [hhead, hbody, hcell]

/-- From a position on, with the group in front of it read, the rows are the groups that end
behind. -/
theorem rowsFrom_take {count : Nat} (htable : table < position)
    (h : position + count ≤ tokens.length)
    (hend : nextInlines (tokens.drop (position + count)) = []) :
    rowsFrom ((group tokens table position).map (childrenAfter tokens))
        ((tokens.drop position).take count) =
      (filledGroups tokens table (positions tokens endsRow position (position + count))).map
        (List.map (childrenAfter tokens)) := by
  induction count generalizing position with
  | zero =>
    rw [List.take_zero, rowsFrom, Nat.add_zero, positions_self]
    rfl
  | succ count ih =>
    have hposition : position < tokens.length := by omega
    have hcount : position + (count + 1) = position + 1 + count := by omega
    obtain ⟨t, ht⟩ : ∃ t, tokens[position]? = some t := ⟨_, List.getElem?_eq_getElem hposition⟩
    rw [hcount] at h hend
    -- a cell in front of the end reads nothing from behind it
    have hnext : nextInlines ((tokens.drop (position + 1)).take count) =
        childrenAfter tokens position := by
      rw [← nextInlines_drop]
      exact nextInlines_take (by rw [List.drop_drop]; exact hend)
    have hrow : (group tokens table (position + 1)).map (childrenAfter tokens) =
        if boundsRow t then []
        else (group tokens table position).map (childrenAfter tokens) ++
          if opensCell t then [childrenAfter tokens position] else [] := by
      rw [group_succ ht htable]
      cases boundsRow t <;> cases opensCell t <;> simp
    have hkept : (if endsRow t then
          [(group tokens table position).map (childrenAfter tokens)].filter (!·.isEmpty) else []) =
        (filledGroups tokens table (if endsRow t then [position] else [])).map
          (List.map (childrenAfter tokens)) := by
      cases endsRow t
      · rfl
      · cases hgroup : group tokens table position <;> simp [filledGroups, hgroup]
    rw [Markdown.drop_eq_cons ht, List.take_succ_cons, rowsFrom_cons, hnext, ← hrow, hkept,
      ih (Nat.lt_succ_of_lt htable) h hend, hcount, positions_cons ht (by omega),
      filledGroups_append, List.map_append]

/-- From a position on, the alignments are those of the cells behind that are in a header. -/
theorem alignmentsFrom_take {count : Nat} (htable : table < position)
    (h : position + count ≤ tokens.length) :
    alignmentsFrom (inHeader tokens table position) ((tokens.drop position).take count) =
      ((positions tokens (·.kind = "th_open") position (position + count)).filter
        (inHeader tokens table)).map (alignmentAt tokens) := by
  induction count generalizing position with
  | zero =>
    rw [List.take_zero, alignmentsFrom, Nat.add_zero, positions_self]
    rfl
  | succ count ih =>
    have hposition : position < tokens.length := by omega
    have hcount : position + (count + 1) = position + 1 + count := by omega
    obtain ⟨t, ht⟩ : ∃ t, tokens[position]? = some t := ⟨_, List.getElem?_eq_getElem hposition⟩
    -- the token itself counts as a header cell just if it opens one where a header goes on
    rw [hcount] at h
    have hcell : (if t.kind = "th_open" then
          if inHeader tokens table position then [cellAlignment t] else [] else []) =
        ((if decide (t.kind = "th_open") then [position] else []).filter
          (inHeader tokens table)).map (alignmentAt tokens) := by
      by_cases hkind : t.kind = "th_open"
      · cases hheader : inHeader tokens table position <;>
          simp [hkind, hheader, alignmentAt, ht]
      · simp [hkind]
    rw [Markdown.drop_eq_cons ht, List.take_succ_cons, alignmentsFrom_cons, hcell,
      ← inHeader_succ ht htable, ih (Nat.lt_succ_of_lt htable) h, hcount,
      positions_cons ht (by omega), List.filter_append, List.map_append]

end

/-! ## Whole tables -/

/-- The groups with cells in the table at `table` that is closed at `close`. -/
def rowGroups (tokens : List Token) (table close : Nat) : List (List Nat) :=
  filledGroups tokens table (positions tokens endsRow (table + 1) close)

/-- The positions of the header cells of the table at `table` that is closed at `close`. -/
def headerCells (tokens : List Token) (table close : Nat) : List Nat :=
  (positions tokens (·.kind = "th_open") (table + 1) close).filter (inHeader tokens table)

/-- The cells are told from the positions of the tokens of their table: each row has the cells of a
group in order, once as they are emitted and once as they are measured, and each header cell gives
an alignment. -/
structure Tabulates (tokens : List Token) (table close : Nat) (cells : Cells) : Prop where
  rows : cells.rows = (rowGroups tokens table close).map (List.map (emittedAfter tokens))
  plainRows : cells.plainRows = (rowGroups tokens table close).map (List.map (measuredAfter tokens))
  alignments : cells.alignments = (headerCells tokens table close).map (alignmentAt tokens)

section

variable {tokens : List Token} {table close : Nat} {cells : Cells} {t : Token}

/-- The rows that are emitted have as many cells as those that are measured. -/
theorem Tabulates.sameShape (h : Tabulates tokens table close cells) :
    cells.rows.map List.length = cells.plainRows.map List.length := by
  rw [h.rows, h.plainRows, List.map_map, List.map_map]
  refine List.map_congr_left fun group _ => ?_
  rw [Function.comp_apply, Function.comp_apply, List.length_map, List.length_map]

/-- A group without cells makes no row. -/
theorem Tabulates.nil_not_mem (h : Tabulates tokens table close cells) : [] ∉ cells.rows := by
  rw [h.rows]
  intro hempty
  obtain ⟨group, hgroup, hnone⟩ := List.mem_map.1 hempty
  rw [List.map_eq_nil_iff] at hnone
  rw [rowGroups, filledGroups, hnone] at hgroup
  exact absurd (List.mem_filter.1 hgroup).2 Bool.false_ne_true

/-- No block is closed by running text. -/
theorem closingKind_ne_inline (kind : String) : closingKind kind ≠ "inline" := by
  intro h
  have hsuffix : "_close".toList <:+ (closingKind kind).toList := by
    rw [closingKind, String.toList_append]
    exact List.suffix_append _ _
  rw [h] at hsuffix
  exact absurd hsuffix (by decide)

/-- Collecting goes up to the closing token, at which no running text stands. -/
theorem tabulates_collectCells (ht : tokens[table]? = some t) :
    Tabulates tokens table (findClose tokens table)
      (collectCells ((tokens.drop (table + 1)).take (lengthOf t (tokens.drop (table + 1))))).1 := by
  have hclose := Markdown.findClose_eq ht
  have hle := Markdown.findClose_le ht
  have hend := nextInlines_drop_tokensToClose t.kind (closingKind_ne_inline t.kind) 1
    (tokens.drop (table + 1))
  -- where the table ends no running text follows, so no row that is still open gets a cell from
  -- outside
  rw [List.drop_drop, ← lengthOf] at hend
  rw [hclose] at hle
  -- from the token that opens the table on, nothing of a row and no header has been read
  have hrows := rowsFrom_take (Nat.lt_succ_self table) hle hend
  have halignments := alignmentsFrom_take (Nat.lt_succ_self table) hle
  rw [group_table, List.map_nil, ← hclose] at hrows
  rw [inHeader_table, ← hclose] at halignments
  have hemitted : emittedCells ∘ List.map (childrenAfter tokens) = List.map (emittedAfter tokens) :=
    funext fun cells => map_childrenAfter rfl cells
  have hmeasured : measuredCells ∘ List.map (childrenAfter tokens) =
      List.map (measuredAfter tokens) :=
    funext fun cells => map_childrenAfter rfl cells
  rw [collectCells_eq]
  constructor
  · show (rowsFrom [] _).map emittedCells = _
    rw [hrows, List.map_map, hemitted]
    rfl
  · show (rowsFrom [] _).map measuredCells = _
    rw [hrows, List.map_map, hmeasured]
    rfl
  · exact halignments

/-- **The rows of a table are its groups of cells**, whether its tokens are balanced or not. There
is a table to collect at an index exactly if there is a token, and its cells have no fault. Each row
holds the texts behind the cells of a group, once as they are emitted and once as they are measured,
so that the one has the shape of the other and no row is empty; and each header cell gives an
alignment. -/
theorem tabulates_cells (tokens : List Token) (index : Nat) :
    (cellsAt? tokens index = none ↔ tokens.length ≤ index) ∧
    ∀ cells needs, cellsAt? tokens index = some (cells, needs) →
      needs.fault = none ∧
      Tabulates tokens index (findClose tokens index) cells ∧
      cells.rows.map List.length = cells.plainRows.map List.length ∧
      [] ∉ cells.rows := by
  rw [cellsAt?]
  cases hat : tokens[index]? with
  | none =>
    have hindex : tokens.length ≤ index := List.getElem?_eq_none_iff.1 hat
    rw [List.drop_eq_nil_of_le hindex]
    exact ⟨iff_of_true rfl hindex, fun cells needs h => nomatch h⟩
  | some t =>
    have hindex : index < tokens.length := (List.getElem?_eq_some_iff.1 hat).1
    rw [Markdown.drop_eq_cons hat]
    refine ⟨iff_of_false (fun h => nomatch h) (Nat.not_le.2 hindex), fun cells needs h => ?_⟩
    obtain ⟨rfl, rfl⟩ := Prod.mk.inj (Option.some.inj h)
    have htabulates := tabulates_collectCells hat
    exact ⟨fault_collectCells _, htabulates, htabulates.sameShape, htabulates.nil_not_mem⟩

end

/-- The tokens of a table that is never closed. A cell stands in front of all rows, one has no text,
a row ends twice, and the last row does not end. -/
def unclosedTable : List Token :=
  let kinds (names : List String) : List Token := names.map fun kind => { kind }
  let text (content : Text) : Token :=
    { kind := "inline", children := some [{ kind := "text", content }] }
  kinds ["paragraph_open", "table_open", "th_open"] ++ [text ['%']] ++
    kinds ["tr_close", "thead_open", "tr_open"] ++
    [{ kind := "th_open", attributes := [("style", .text "text-align: right".toList)] }] ++
    kinds ["th_open"] ++ [text ['b']] ++
    kinds ["th_close", "tr_close", "tr_close", "thead_close", "td_open"] ++ [text ['c']]

/-- The cell in front of the rows makes a row of its own, and gives no alignment; those of the
header keep their places though one has no text. -/
theorem tabulates_unclosedTable :
    ∃ cells needs, cellsAt? unclosedTable 1 = some (cells, needs) ∧
      Tabulates unclosedTable 1 (findClose unclosedTable 1) cells ∧
      rowGroups unclosedTable 1 (findClose unclosedTable 1) = [[2], [7, 8]] ∧
      cells.rows = [[['\\', '%']], [[], ['b']]] ∧ cells.plainRows = [[['%']], [[], ['b']]] ∧
      cells.alignments = [.right, .left] := by
  obtain ⟨hnone, hsome⟩ := tabulates_cells unclosedTable 1
  cases hcells : cellsAt? unclosedTable 1 with
  | none => exact absurd (hnone.1 hcells) (by decide)
  | some collected =>
    obtain ⟨cells, needs⟩ := collected
    obtain ⟨-, htabulates, -, -⟩ := hsome cells needs hcells
    -- the table is never closed, so it goes on to the end of the tokens
    have hclose : findClose unclosedTable 1 = 16 := by decide +kernel
    have hgroups : rowGroups unclosedTable 1 16 = [[2], [7, 8]] := by decide +kernel
    have hheader : headerCells unclosedTable 1 16 = [7, 8] := by decide +kernel
    refine ⟨cells, needs, rfl, htabulates, ?_, ?_, ?_, ?_⟩
    · rw [hclose, hgroups]
    · rw [htabulates.rows, hclose, hgroups]
      decide +kernel
    · rw [htabulates.plainRows, hclose, hgroups]
      decide +kernel
    · rw [htabulates.alignments, hclose, hheader]
      decide +kernel

end MarkTex.Body
