import MarkTex.Proofs.Body.Block
import MarkTex.Proofs.Body.Running
import MarkTex.Proofs.Table.Reading

/-!
# Reading a body

Where nothing is emitted just as it was written, no sign of the document reaches the body unescaped
(`escaped_render`), whether the tokens are balanced or not. The rows in which an ampersand separates
the cells are those of the tables that are laid out (`rowsOfParts`).

## Shape of the proof

By recursion on the outline. Running text without formulas and images is clean, so it is markup or
may be the cell of a table (`clean_renderInlines`). Each kind of block puts the lines of its own
between what is written of its parts, and they are clean.
-/

namespace MarkTex.Body

open Markdown (Token)
open Table (Written WrittenAll Escaped)
open Tex (Clean)

/-- None of the constructs is emitted just as it was written. -/
def NoneVerbatim (constructs : List Construct) : Prop :=
  ∀ construct ∈ constructs, construct.verbatim? = none

theorem noneVerbatim_append {constructs others : List Construct} :
    NoneVerbatim (constructs ++ others) ↔ NoneVerbatim constructs ∧ NoneVerbatim others :=
  List.forall_mem_append

/-! ## Running text -/

/-- A marked phrase is clean if what it encloses is. -/
theorem clean_decorate (opener : Token) {inner : Fragment} (h : Clean inner.text) :
    Clean (decorate opener inner).text := by
  rw [decorate]
  split
  · exact Tex.clean_command (by decide) h
  split
  · exact Tex.clean_command (by decide) h
  split
  · have hstruck : Clean (Tex.command "sout" inner.text) := Tex.clean_command (by decide) h
    exact hstruck.append (Tex.leads_nil _)
  · have hlink := (Tex.clean_link (opener.attrText "href")).append (Tex.clean_braced h)
    exact hlink.append (Tex.leads_nil _)

/-- Being clean is kept by all that running text is built of, if nothing in it is kept as it is. -/
theorem clean_keptByMarkup :
    KeptByMarkup (fun construct => construct.verbatim? = none) Clean where
  toCompositional := Tex.compositional_clean
  escapeChar := Tex.clean_escapeChar
  lineFeed := by decide
  lineEnd := by decide
  formula := fun _ hnone => nomatch hnone
  code := fun t => Tex.clean_command (by decide) (Tex.clean_escape t)
  image := fun hnone => nomatch hnone
  decorate := clean_decorate

/-- Running text is clean if nothing in it is kept as it is. -/
theorem clean_renderInlines {children : List Token}
    (h : NoneVerbatim (constructsOfInlines children)) : Clean (renderInlines children).text :=
  clean_keptByMarkup.renderInlines h

/-! ## Rows of tables -/

section

variable (options : Table.Options)

/-- The rows of a table that is laid out, each cell as it stands in the body. -/
def rowsOfTable (tokens : List Token) : List Table.Row :=
  let cells := (collectCells tokens).1
  match Table.layout options cells.rows cells.plainRows cells.alignments with
  | .ok _ => cells.rows.map fun row => row.map Text.strip
  | .error _ => []

mutual

/-- The rows of the tables in a part. -/
def Part.rows : Part → List Table.Row
  | .heading _ _ => []
  | .unreadable _ => []
  | .paragraph _ => []
  | .list _ items => rowsOfItems items
  | .quote parts => rowsOfParts parts
  | .listing _ => []
  | .rule => []
  | .table tokens => rowsOfTable options tokens
  | .passed _ => []

/-- The rows of the tables in parts. -/
def rowsOfParts : List Part → List Table.Row
  | [] => []
  | part :: parts => part.rows ++ rowsOfParts parts

/-- The rows of the tables in items. -/
def rowsOfItems : List (List Part) → List Table.Row
  | [] => []
  | parts :: items => rowsOfParts parts ++ rowsOfItems items

end

/-- A table is written with the rows that it is laid out with, and its cells are clean. -/
theorem written_renderTable {tokens : List Token}
    (h : NoneVerbatim (constructsOfTable options tokens)) :
    Written (renderTable options tokens).text (rowsOfTable options tokens) := by
  rw [rowsOfTable, collectCells_eq]
  rcases renderTable_cases options tokens with ⟨⟨cause, hlayout⟩, htext⟩ |
    ⟨table, hlayout, htext, hcells⟩
  · -- what could not be laid out is emitted as nothing and has no rows
    rw [htext, hlayout]
    exact Table.written_nil
  · rw [htext, hlayout]
    refine Table.written_layout hlayout fun row hrow cell hcell => ?_
    obtain ⟨kept, hkept, rfl⟩ := List.mem_map.1 hrow
    obtain ⟨children, hchildren, rfl⟩ := List.mem_map.1 hcell
    exact clean_renderInlines fun construct hconstruct =>
      h construct (hcells kept hkept children hchildren hconstruct)

end

/-! ## Blocks that hold blocks -/

/-- The texts of fragments are written one by one. -/
abbrev WrittenBlocks (blocks : List Fragment) (rows : List Table.Row) : Prop :=
  WrittenAll (blocks.map Fragment.text) rows

/-- Blocks that are joined by a clean separator are written with the rows of all of them. -/
theorem written_joinTexts {separator : Text} {blocks : List Fragment} {rows : List Table.Row}
    (hseparator : Clean separator) (h : WrittenBlocks blocks rows) :
    Written (Fragment.joinWith separator blocks).text rows :=
  h.filter_nonempty.intercalate hseparator

/-- The command of a heading is clean. -/
theorem clean_headingCommand (level : Int) :
    Clean ('\\' :: (headingCommand level).toList) := by
  have hcommands : ∀ command ∈ headingCommands, Clean ('\\' :: command.toList) := by
    decide
  exact hcommands _ (headingCommand_mem level)

/-- An environment has the rows of its lines. -/
theorem written_environmentLines {name : String} (hopening : Clean (Tex.opening name))
    (hclosing : Clean (Tex.closing name)) {lines : List Text} {rows : List Table.Row}
    (h : WrittenAll lines rows) : Written (environmentLines name lines) rows := by
  have hlines := h.append (.markup hclosing .nil)
  rw [List.append_nil] at hlines
  exact WrittenAll.intercalate (by decide) (.markup hopening hlines)

/-- An item has the rows of its blocks. -/
theorem written_renderItem {blocks : List Fragment} {rows : List Table.Row}
    (h : WrittenBlocks blocks rows) : Written (renderItem blocks).text rows := by
  have hbreak : Clean ['\n'] := by
    decide
  have hbody := written_joinTexts hbreak h
  have hitem : Clean "\\item ".toList := by
    decide
  rw [renderItem]
  show Written (if _ then _ else _) rows
  split
  · rename_i hempty
    rw [List.isEmpty_iff] at hempty
    rw [hempty] at hbody
    -- an empty body has no rows, so the command may stand alone
    rw [Table.rows_of_written_nil hbody]
    exact Table.written_markup (by decide)
  · exact (Table.written_markup hitem).append hbody

/-- A list has the rows of its items. -/
theorem written_renderList (kind : String) {items : List Fragment} {rows : List Table.Row}
    (h : WrittenBlocks items rows) :
    Written (renderList (listEnvironment kind) items).text rows := by
  have hname : Clean (Tex.opening (listEnvironment kind)) ∧
      Clean (Tex.closing (listEnvironment kind)) := by
    rw [listEnvironment]
    split <;> decide
  rw [renderList_eq]
  exact written_environmentLines hname.1 hname.2 h

/-- A quote has the rows of its blocks. -/
theorem written_renderQuote {blocks : List Fragment} {rows : List Table.Row}
    (h : WrittenBlocks blocks rows) : Written (renderQuote blocks).text rows := by
  have hbreak : Clean ['\n', '\n'] := by
    decide
  have hbody := written_joinTexts hbreak h
  refine written_environmentLines (by decide) (by decide) ?_
  split
  · rename_i hempty
    rw [List.isEmpty_iff] at hempty
    rw [hempty] at hbody
    -- an empty body has no rows and no line of its own
    rw [Table.rows_of_written_nil hbody]
    exact .nil
  · have hlines := WrittenAll.cons hbody .nil
    rwa [List.append_nil] at hlines

section

variable (options : Table.Options)

mutual

/-- A part is written with its rows, where nothing in it is kept as it is. -/
theorem written_part :
    ∀ part : Part, NoneVerbatim (part.constructs options) →
      Written (part.render options).text (part.rows options)
  | .heading level _, h => by
    rw [Part.constructs] at h
    rw [Part.render, Part.rows]
    exact Table.written_markup
      (Tex.clean_command (clean_headingCommand level) (clean_renderInlines h))
  | .unreadable _, _ => by
    rw [Part.render, Part.rows]
    exact Table.written_nil
  | .paragraph _, h => by
    rw [Part.constructs] at h
    rw [Part.render, Part.rows]
    exact Table.written_markup (clean_renderInlines h)
  | .list kind items, h => by
    rw [Part.constructs] at h
    rw [Part.render, Part.rows]
    exact written_renderList kind (written_itemParts items h)
  | .quote parts, h => by
    rw [Part.constructs] at h
    rw [Part.render, Part.rows]
    exact written_renderQuote (written_parts parts h)
  | .listing t, h => by
    -- the code of a listing would stand as it was written
    rw [Part.constructs, constructsOfListing] at h
    exact nomatch h (.listing t.content) List.mem_cons_self
  | .rule, _ => by
    rw [Part.render, Part.rows]
    exact Table.written_markup (by decide)
  | .table _, h => by
    rw [Part.constructs] at h
    rw [Part.render, Part.rows]
    exact written_renderTable options h
  | .passed t, _ => by
    rw [Part.render, Part.rows, renderPassed]
    split <;> exact Table.written_nil

/-- Parts are written with their rows, part by part. -/
theorem written_parts :
    ∀ parts : List Part, NoneVerbatim (constructsOfParts options parts) →
      WrittenBlocks (renderParts options parts) (rowsOfParts options parts)
  | [], _ => by
    rw [renderParts, rowsOfParts]
    exact .nil
  | part :: parts, h => by
    rw [constructsOfParts, noneVerbatim_append] at h
    rw [renderParts, rowsOfParts]
    exact .cons (written_part part h.1) (written_parts parts h.2)

/-- Items are written with their rows, item by item. -/
theorem written_itemParts :
    ∀ items : List (List Part), NoneVerbatim (constructsOfItems options items) →
      WrittenBlocks (renderItemParts options items) (rowsOfItems options items)
  | [], _ => by
    rw [renderItemParts, rowsOfItems]
    exact .nil
  | parts :: items, h => by
    rw [constructsOfItems, noneVerbatim_append] at h
    rw [renderItemParts, rowsOfItems]
    exact .cons (written_renderItem (written_parts parts h.1)) (written_itemParts items h.2)

end

/-- **No sign of a document without formulas, images and code blocks reaches the body unescaped**,
whether its tokens are balanced or not. Percent and number signs are escaped everywhere; other signs
are escaped or stand in the address of a link; and one ampersand separates neighbouring cells in the
rows of its tables. -/
theorem escaped_render (tokens : List Token)
    (h : ∀ construct ∈ constructs options tokens, construct.verbatim? = none) :
    Escaped (render options tokens).text (rowsOfParts options (outline tokens)) := by
  rw [render_eq]
  exact (written_joinTexts (by decide) (written_parts options (outline tokens) h)).escaped

end

/-! ## A table that is not closed -/

/-- A text with two signs. -/
def signs : List Token :=
  [{ kind := "text", content := "R&D 5%".toList }]

/-- The opening marker of a link with signs in its address. -/
def signedOpener : Token where
  kind := "link_open"
  attributes := [("href", .text "a?b=~1&c#d".toList)]

/-- A link with signs in its address and in its text. -/
def signedLink : List Token :=
  [signedOpener, { kind := "text", content := "#_1".toList }, { kind := "link_close" }]

/-- A table that nothing closes, with a row of two cells. -/
def openTable : List Token :=
  [{ kind := "table_open" },
    { kind := "tr_open" },
    { kind := "td_open" },
    { kind := "inline", children := some signs },
    { kind := "td_open" },
    { kind := "inline", children := some signedLink },
    { kind := "tr_close" }]

/-- Nothing of the table that nothing closes is kept as it is. -/
theorem noneVerbatim_openTable : NoneVerbatim (constructs {} openTable) := by
  have houtline : outline openTable = [.table openTable.tail] := by
    have hlength : Markdown.lengthOf { kind := "table_open" } openTable.tail = 6 := by
      decide
    have htake : openTable.tail.take 6 = openTable.tail := rfl
    have hdrop : openTable.tail.drop 7 = [] := rfl
    have hblock : outlineBlock { kind := "table_open" } openTable.tail =
        (.table openTable.tail, 7) := by
      simp [outlineBlock, hlength, htake]
    show outlineBlocks (6 + 1) ({ kind := "table_open" } :: openTable.tail) = _
    rw [outlineBlocks, hblock]
    simp only
    rw [hdrop, outlineBlocks]
  have hsource : ∀ source : Text, '$' ∉ source → Text.hasIdeograph source = false →
      constructsOfText source = [] := by
    intro source hdollar hideograph
    rw [constructsOfText, Text.formulas_of_not_mem hdollar, ideographsIn, hideograph]
    rfl
  have hsigns : constructsOfInlines signs = [] := by
    have hphrases : arrange signs = [.run signs] := by
      simp [arrange, arrangeFrom, signs, isRunKind, closeRun, leaveOpen]
    have htext : constructsOfText (runSource signs) = [] := hsource _ (by decide) (by decide)
    rw [constructsOfInlines, hphrases, constructsOfPhrases, Phrase.constructs, htext]
    rfl
  have hlink : constructsOfInlines signedLink = [.link] := by
    let run : List Token := [{ kind := "text", content := "#_1".toList }]
    have hphrases : arrange signedLink =
        [.marked signedOpener { kind := "link_close" } [.run run]] := by
      simp [arrange, arrangeFrom, signedLink, signedOpener, isRunKind, closerOf?, isCloser,
        closeRun, leaveOpen, run]
    have htext : constructsOfText (runSource run) = [] := hsource _ (by decide) (by decide)
    have hmarker : constructsOfMarker signedOpener = [.link] := by
      decide
    rw [constructsOfInlines, hphrases]
    simp only [constructsOfPhrases, Phrase.constructs, hmarker, htext]
    rfl
  have hrows : rowsFrom [] openTable.tail = [[signs, signedLink]] := rfl
  rw [constructs, houtline]
  simp only [constructsOfParts, Part.constructs, List.append_nil]
  rw [constructsOfTable, hrows]
  simp only
  -- the cells hold nothing that is kept as it is, however the table is laid out
  split
  · simp [NoneVerbatim, hsigns, hlink, Construct.verbatim?]
  · exact fun _ hconstruct => absurd hconstruct List.not_mem_nil

/-- A table that nothing closes: all signs of its cells are escaped, and one ampersand stands
between them. -/
theorem escaped_render_openTable :
    (∀ construct ∈ constructs {} openTable, construct.verbatim? = none) ∧
      Escaped (render {} openTable).text (rowsOfParts {} (outline openTable)) :=
  ⟨noneVerbatim_openTable, escaped_render {} openTable noneVerbatim_openTable⟩

end MarkTex.Body
