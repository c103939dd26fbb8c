import MarkTex.Proofs.Body.Block
import MarkTex.Proofs.Body.Break
import MarkTex.Proofs.Body.Cells
import MarkTex.Proofs.Table.Columns
import MarkTex.WordCount

/-!
# Hard breaks in a document

Whether soft breaks are made hard matters to nothing but the breaks: the same words are counted, the
same packages are asked for, and every table has the same measures, environment and columns
(`hardenBreaks_agrees`).

## Shape of the proof

Making breaks hard changes nothing of a token but its children. Blocks are told apart by the kinds
of tokens, tables are measured without their breaks, and running texts need the same.
-/

namespace MarkTex

open Markdown (Token lengthOf tokensToClose)

/-! ## Words -/

namespace WordCount

/-- A break counts as a space, whether it is hard or soft. -/
theorem childText_hardened (t : Token) : childText t.hardened = childText t := by
  rw [Token.hardened]
  split
  · rename_i hkind
    simp [childText, hkind]
  · rfl

/-- The counted text of a token has a space for each break, hard or soft. -/
theorem inlineText_hardenBreaks (t : Token) : inlineText t.hardenBreaks = inlineText t := by
  rw [inlineText, Body.inlines_hardenBreaks, List.flatMap_map, funext childText_hardened]
  rfl

/-- The counted text of a document leaves the kind of its breaks open. -/
theorem collectFrom_hardenBreaks (depth : Nat) (tokens : List Token) :
    collectFrom depth (tokens.map Token.hardenBreaks) = collectFrom depth tokens := by
  induction tokens generalizing depth with
  | nil => rfl
  | cons t rest ih =>
    rw [List.map_cons, collectFrom, collectFrom, inlineText_hardenBreaks]
    simp only [ih]
    rfl

end WordCount

namespace Body

/-! ## Tokens of blocks -/

/-- Blocks close where they did. -/
theorem tokensToClose_hardenBreaks (openKind closeKind : String) (depth : Nat)
    (tokens : List Token) :
    tokensToClose openKind closeKind depth (tokens.map Token.hardenBreaks) =
      tokensToClose openKind closeKind depth tokens := by
  induction tokens generalizing depth with
  | nil => rfl
  | cons t rest ih =>
    rw [List.map_cons, tokensToClose, tokensToClose, ih, ih, ih]
    rfl

/-- A block is closed by the same token whatever its breaks are. -/
theorem lengthOf_hardenBreaks (t : Token) (rest : List Token) :
    lengthOf t.hardenBreaks (rest.map Token.hardenBreaks) = lengthOf t rest :=
  tokensToClose_hardenBreaks _ _ _ rest

/-- The children that follow have their breaks made hard, and are otherwise the same. -/
theorem nextInlines_hardenBreaks (rest : List Token) :
    nextInlines (rest.map Token.hardenBreaks) = (nextInlines rest).map Token.hardened := by
  cases rest with
  | nil => rfl
  | cons t rest =>
    rw [List.map_cons, nextInlines, nextInlines, inlines_hardenBreaks]
    by_cases hkind : t.kind = "inline"
    · rw [if_pos hkind]
      exact if_pos hkind
    · rw [if_neg hkind]
      exact if_neg hkind

/-- The running text that follows needs the same packages. -/
theorem features_renderNextInline_hardenBreaks (rest : List Token) :
    (renderNextInline (rest.map Token.hardenBreaks)).features =
      (renderNextInline rest).features := by
  rw [renderNextInline_eq, renderNextInline_eq, nextInlines_hardenBreaks,
    features_renderInlines_hardened]

/-! ## Tables -/

/-- A row of cells with their breaks made hard. -/
abbrev hardenRow (row : List (List Token)) : List (List Token) :=
  row.map (·.map Token.hardened)

/-- The rows have the same cells in the same places, each with its breaks made hard. -/
theorem rowsFrom_hardenBreaks (row : List (List Token)) (tokens : List Token) :
    rowsFrom (hardenRow row) (tokens.map Token.hardenBreaks) =
      (rowsFrom row tokens).map hardenRow := by
  induction tokens generalizing row with
  | nil => rfl
  | cons t rest ih =>
    have hkind : t.hardenBreaks.kind = t.kind := rfl
    have hopens : opensCell t.hardenBreaks = opensCell t := rfl
    have hnew : rowsFrom [] (rest.map Token.hardenBreaks) = (rowsFrom [] rest).map hardenRow :=
      ih []
    have hnext : hardenRow row ++ [nextInlines (rest.map Token.hardenBreaks)] =
        hardenRow (row ++ [nextInlines rest]) := by
      rw [nextInlines_hardenBreaks, hardenRow, hardenRow, List.map_append, List.map_singleton]
    -- the tests of the row are on kinds of tokens and on whether the row has cells, and both are
    -- kept
    rw [List.map_cons, rowsFrom, rowsFrom, hkind, hopens, hnew, hnext, ih, ih, List.isEmpty_map]
    split
    · rfl
    split
    · split <;> rfl
    split <;> rfl

/-- The cells of a table are the same ones, each with its breaks made hard. -/
theorem cellsFrom_hardenBreaks (tokens : List Token) :
    cellsFrom (tokens.map Token.hardenBreaks) = hardenRow (cellsFrom tokens) := by
  induction tokens with
  | nil => rfl
  | cons t rest ih =>
    have hopens : opensCell t.hardenBreaks = opensCell t := rfl
    rw [List.map_cons, cellsFrom, cellsFrom, hopens, ih, nextInlines_hardenBreaks]
    split <;> rfl

/-- Alignments are read off the tokens that open header cells, which have no breaks. -/
theorem alignmentsFrom_hardenBreaks (inHeader : Bool) (tokens : List Token) :
    alignmentsFrom inHeader (tokens.map Token.hardenBreaks) = alignmentsFrom inHeader tokens := by
  induction tokens generalizing inHeader with
  | nil => rfl
  | cons t rest ih =>
    rw [List.map_cons, alignmentsFrom, alignmentsFrom, ih, ih, ih]
    rfl

/-- The cells of a table with hard breaks are as many, and measured as before. -/
theorem collectCells_hardenBreaks (tokens : List Token) :
    let cells := (collectCells tokens).1
    let others := (collectCells (tokens.map Token.hardenBreaks)).1
    others.rows.map List.length = cells.rows.map List.length ∧
      others.plainRows = cells.plainRows ∧ others.alignments = cells.alignments := by
  simp only [collectCells_eq]
  have hrows : rowsFrom [] (tokens.map Token.hardenBreaks) = (rowsFrom [] tokens).map hardenRow :=
    rowsFrom_hardenBreaks [] tokens
  rw [hrows, alignmentsFrom_hardenBreaks]
  refine ⟨?_, ?_, rfl⟩
  · simp only [List.map_map]
    refine List.map_congr_left fun row _ => ?_
    simp [emittedCells, hardenRow]
  · simp only [List.map_map]
    refine List.map_congr_left fun row _ => ?_
    -- the cells as they are measured have a space for each break
    simp only [Function.comp_apply, measuredCells, hardenRow, List.map_map]
    exact List.map_congr_left fun children _ => plainText_hardened children

/-- The cells of a table need the same packages. -/
theorem features_collectCells_hardenBreaks (tokens : List Token) :
    (collectCells (tokens.map Token.hardenBreaks)).2.features =
      (collectCells tokens).2.features := by
  simp only [collectCells_eq, features_needsOf, cellsFrom_hardenBreaks, List.map_map]
  exact congrArg Features.unionAll
    (List.map_congr_left fun children _ => features_renderInlines_hardened children)

/-- Both tables are laid out, with the same measures, in the same environment and with the same
column specification, which rows without cells have none of. -/
def LaidOutAlike (options : Table.Options) (cells others : Cells) : Prop :=
  ∃ table table',
    Table.layout options cells.rows cells.plainRows cells.alignments = .ok table ∧
    Table.layout options others.rows others.plainRows others.alignments = .ok table' ∧
    table'.analysis = table.analysis ∧ table'.environment = table.environment ∧
    table'.packages = table.packages ∧
    (cells.rows = [] ∧ others.rows = [] ∨
      ∃ spec,
        table.code = Table.assemble options.style table.environment spec cells.rows ∧
        table'.code = Table.assemble options.style table.environment spec others.rows)

/-- A table is laid out by the lengths of its rows, its measured cells and its alignments. -/
theorem laidOutAlike (options : Table.Options) {cells others : Cells}
    (hrows : others.rows.map List.length = cells.rows.map List.length)
    (hplain : others.plainRows = cells.plainRows) (halign : others.alignments = cells.alignments) :
    LaidOutAlike options cells others := by
  rw [LaidOutAlike, hplain, halign]
  have hcount : others.rows.length = cells.rows.length := by
    simpa using congrArg List.length hrows
  -- a table without rows is not laid out at all, so both are without code
  by_cases hnil : cells.rows = []
  · have hnil' : others.rows = [] := by
      rw [hnil, List.length_nil] at hcount
      exact List.eq_nil_of_length_eq_zero hcount
    rw [hnil, hnil']
    exact ⟨_, _, rfl, rfl, rfl, rfl, rfl, .inl ⟨rfl, rfl⟩⟩
  · have hne : others.rows ≠ [] := by
      intro hnil'
      rw [hnil', List.length_nil] at hcount
      exact hnil (List.eq_nil_of_length_eq_zero hcount.symm)
    -- the emitted cells count for the measures by the number of them only
    have hmeasures : Table.analyze options others.rows cells.plainRows cells.alignments =
        Table.analyze options cells.rows cells.plainRows cells.alignments := by
      rw [Table.analyze, Table.analyze, Table.columnCount, Table.columnCount, hrows, hcount]
    obtain ⟨table, spec, hlayout, hanalysis, henvironment, hspec, hcode, hpackages, -⟩ :=
      Table.layout_of_ne_nil options cells.plainRows cells.alignments hnil
    obtain ⟨table', spec', hlayout', hanalysis', henvironment', hspec', hcode', hpackages', -⟩ :=
      Table.layout_of_ne_nil options cells.plainRows cells.alignments hne
    rw [hmeasures] at hanalysis' henvironment' hspec'
    rw [← henvironment] at henvironment'
    rw [henvironment', hspec] at hspec'
    obtain rfl := Except.ok.inj hspec'
    rw [henvironment'] at hcode' hpackages'
    exact ⟨table, table', hlayout, hlayout', hanalysis'.trans hanalysis.symm, henvironment',
      hpackages'.trans hpackages.symm, .inr ⟨spec, hcode, hcode'⟩⟩

/-- A table is laid out with the same columns whatever the breaks in its cells are. -/
theorem laidOutAlike_hardenBreaks (options : Table.Options) (tokens : List Token) :
    LaidOutAlike options (collectCells tokens).1
      (collectCells (tokens.map Token.hardenBreaks)).1 :=
  let ⟨hrows, hplain, halign⟩ := collectCells_hardenBreaks tokens
  laidOutAlike options hrows hplain halign

/-- What a table needs besides its cells is decided by its layout. -/
theorem features_renderTable {options : Table.Options} {tokens : List Token}
    {table : Table.Layout}
    (h : Table.layout options (collectCells tokens).1.rows (collectCells tokens).1.plainRows
      (collectCells tokens).1.alignments = .ok table) :
    (renderTable options tokens).features =
      (Features.union { tables := true } (collectCells tokens).2.features).union
        { packages := Packages.ofNames table.packages } := by
  rw [renderTable]
  simp only [h]
  rfl

/-- A table needs the same packages whatever the breaks in its cells are. -/
theorem features_renderTable_hardenBreaks (options : Table.Options) (tokens : List Token) :
    (renderTable options (tokens.map Token.hardenBreaks)).features =
      (renderTable options tokens).features := by
  obtain ⟨table, table', hlayout, hlayout', -, -, hpackages, -⟩ :=
    laidOutAlike_hardenBreaks options tokens
  rw [features_renderTable hlayout, features_renderTable hlayout', hpackages,
    features_collectCells_hardenBreaks]

/-! ## Blocks -/

/-- A heading needs what its text needs. -/
theorem features_renderHeading_congr (tag : String) {inner other : Fragment}
    (h : inner.features = other.features) :
    (renderHeading tag inner).features = (renderHeading tag other).features := by
  rw [renderHeading, renderHeading]
  cases headingLevel tag with
  | ok level => exact h
  | error cause => rfl

section

variable (options : Table.Options)

mutual

/-- Each block of some tokens needs the same packages whatever their breaks are. -/
theorem features_renderBlocks_hardenBreaks (count : Nat) (tokens : List Token) :
    (renderBlocks options count (tokens.map Token.hardenBreaks)).map (·.features) =
      (renderBlocks options count tokens).map (·.features) := by
  match tokens, count with
  | [], count => rw [List.map_nil]
  | t :: rest, 0 => rw [List.map_cons, renderBlocks, renderBlocks]
  | t :: rest, count + 1 =>
    obtain ⟨hfeatures, htaken⟩ := renderBlock_hardenBreaks t rest
    rw [List.map_cons, renderBlocks, renderBlocks]
    simp only [List.map_cons]
    rw [hfeatures, htaken, ← List.map_drop, features_renderBlocks_hardenBreaks]
termination_by (tokens.length, 1)
decreasing_by
  · simp_wf; exact Prod.Lex.right _ Nat.zero_lt_one
  · simp_wf; exact Prod.Lex.left _ _ (by omega)

/-- A block takes as many tokens, and needs the same. -/
theorem renderBlock_hardenBreaks (t : Token) (rest : List Token) :
    (renderBlock options t.hardenBreaks (rest.map Token.hardenBreaks)).1.features =
        (renderBlock options t rest).1.features ∧
      (renderBlock options t.hardenBreaks (rest.map Token.hardenBreaks)).2 =
        (renderBlock options t rest).2 := by
  have hkind : t.hardenBreaks.kind = t.kind := rfl
  have htag : t.hardenBreaks.tag = t.tag := rfl
  have hlisting : renderListing t.hardenBreaks = renderListing t := rfl
  have hclosing : t.hardenBreaks.isClosing = t.isClosing := rfl
  rw [renderBlock, renderBlock, hkind, htag, hlisting, hclosing, lengthOf_hardenBreaks]
  -- the cases of a block are told by kind, tag and closing, none of which has changed
  split
  · exact ⟨features_renderHeading_congr _ (features_renderNextInline_hardenBreaks rest), rfl⟩
  split
  · exact ⟨features_renderNextInline_hardenBreaks rest, rfl⟩
  split
  · refine ⟨?_, rfl⟩
    dsimp only
    rw [features_renderList, features_renderList, features_renderItems_hardenBreaks]
  split
  · refine ⟨?_, rfl⟩
    dsimp only
    rw [features_renderQuote, features_renderQuote, features_renderBlocks_hardenBreaks]
  split
  · exact ⟨rfl, rfl⟩
  split
  · exact ⟨rfl, rfl⟩
  split
  · refine ⟨?_, rfl⟩
    dsimp only
    rw [← List.map_take, features_renderTable_hardenBreaks]
  split
  · exact ⟨rfl, rfl⟩
  · exact ⟨rfl, rfl⟩
termination_by (rest.length + 1, 0)
decreasing_by all_goals exact Prod.Lex.left _ _ (by omega)

/-- Each item of a list needs the same packages whatever its breaks are. -/
theorem features_renderItems_hardenBreaks (count : Nat) (tokens : List Token) :
    (renderItems options count (tokens.map Token.hardenBreaks)).map (·.features) =
      (renderItems options count tokens).map (·.features) := by
  match tokens, count with
  | [], count => rw [List.map_nil]
  | t :: rest, 0 => rw [List.map_cons, renderItems, renderItems]
  | t :: rest, count + 1 =>
    have hkind : t.hardenBreaks.kind = t.kind := rfl
    rw [List.map_cons, renderItems, renderItems, hkind, lengthOf_hardenBreaks]
    split
    · simp only [List.map_cons]
      rw [features_renderItem, features_renderItem, features_renderBlocks_hardenBreaks,
        ← List.map_drop, features_renderItems_hardenBreaks]
    · rw [features_renderItems_hardenBreaks]
termination_by (tokens.length, 1)
decreasing_by all_goals (simp_wf; exact Prod.Lex.left _ _ (by omega))

end

/-! ## Documents -/

/-- The cells of a table are found where they were. -/
theorem cellsAt?_hardenBreaks (tokens : List Token) (index : Nat) :
    Option.Rel (fun cells others => LaidOutAlike options cells.1 others.1)
      (cellsAt? tokens index) (cellsAt? (tokens.map Token.hardenBreaks) index) := by
  rw [cellsAt?, cellsAt?, ← List.map_drop]
  cases tokens.drop index with
  | nil => exact .none
  | cons t rest =>
    rw [List.map_cons]
    dsimp only
    rw [lengthOf_hardenBreaks, ← List.map_take]
    exact .some (laidOutAlike_hardenBreaks options _)

/-- **Making breaks hard matters to breaks only.** The same text is counted, a body needs the same,
and the table at any position is laid out alike. A running text is emitted with commands that end a
line in front of some line feeds outside of its formulas, and otherwise as before. -/
theorem hardenBreaks_agrees (tokens : List Token) :
    WordCount.collect (tokens.map Token.hardenBreaks) = WordCount.collect tokens ∧
    (render options (tokens.map Token.hardenBreaks)).features =
      (render options tokens).features ∧
    (∀ index, Option.Rel (fun cells others => LaidOutAlike options cells.1 others.1)
      (cellsAt? tokens index) (cellsAt? (tokens.map Token.hardenBreaks) index)) ∧
    ∀ t : Token,
      (markInlines t.inlines).map Prod.fst = (renderInlines t.inlines).text ∧
      EndsLines (markInlines t.inlines) (renderInlines t.hardenBreaks.inlines).text := by
  refine ⟨?_, ?_, cellsAt?_hardenBreaks options tokens, fun t => ⟨map_fst_markInlines _, ?_⟩⟩
  · rw [WordCount.collect, WordCount.collectFrom_hardenBreaks]
    rfl
  · rw [render, render, Fragment.features_joinWith, Fragment.features_joinWith, List.length_map,
      features_renderBlocks_hardenBreaks]
  · rw [inlines_hardenBreaks]
    exact endsLines_renderInlines t.inlines

end

end Body

end MarkTex
