import MarkTex.Proofs.Body.Piece
import MarkTex.Proofs.Table.Piece

/-!
# Optional arguments in a body

Items, ends of lines and of rows, and two of the rules of a table look for an optional argument
behind them. The emitter protects none of them from the text that comes next. But no such command is
read that it did not emit, it puts no bracket and no star of its own where one would look, and
nothing but spaces and line ends stands between a command and what it finds. So a command finds a
bracket or a star exactly where the next piece that shows something is a bracket or a star of the
document itself (`seekers_render`). An item that starts with a bracket is such a case
(`not_guarded_bracketItem`).

## Shape of the proof

The pieces of a body are told by recursion on its outline (`bodyPieces`). Where nothing is kept as
it is, they are written as the body is (`write_bodyPieces`). They are faithful because each line of
an environment is: an item that is empty ends with its command, but the line end behind it ends the
name (`faithful_itemPieces`).
-/

namespace MarkTex.Body

open Markdown (Token)
open Tex (Piece Faithful Inert writePieces joinPieces linePieces followers argumentSigns)

/-! ## Pieces of blocks -/

/-- The pieces of blocks that write something, with markup between neighbours. -/
def joinBlocks (separator : Text) (blocks : List (List Piece)) : List Piece :=
  joinPieces separator (blocks.filter fun pieces => !(writePieces pieces).isEmpty)

/-- The pieces of an item of the given blocks. -/
def itemPieces (blocks : List (List Piece)) : List Piece :=
  let body := joinBlocks ['\n'] blocks
  if (writePieces body).isEmpty then [.seeker .item] else .seeker .item :: .markup [' '] :: body

/-- The pieces of a quotation of the given blocks. -/
def quotePieces (blocks : List (List Piece)) : List Piece :=
  let body := joinBlocks ['\n', '\n'] blocks
  linePieces ([.markup (Tex.opening "quote")] :: if (writePieces body).isEmpty then [] else [body])
    (Tex.closing "quote")

section

variable (options : Table.Options)

/-- The pieces of a table. One that has no rows or cannot be laid out has none. -/
def tablePieces (tokens : List Token) : List Piece :=
  let rows := rowsFrom [] tokens
  let analysis := Table.analyze options (rows.map emittedCells) (rows.map measuredCells)
    (alignmentsFrom false tokens)
  match Table.columnSpec analysis analysis.environment with
  | .ok spec =>
    if rows.isEmpty then []
    else
      Table.tablePieces options.style analysis.environment spec
        (rows.map fun row => row.map inlinePieces)
  | .error _ => []

mutual

/-- The pieces of a part. A listing has none, since its code is kept as it is. -/
def Part.pieces : Part → List Piece
  | .heading level text =>
    .markup ('\\' :: (headingCommand level).toList ++ ['{']) :: inlinePieces text ++
      [.markup ['}']]
  | .unreadable _ => []
  | .paragraph text => inlinePieces text
  | .list kind items =>
    linePieces ([.markup (Tex.opening (listEnvironment kind))] :: piecesOfItems items)
      (Tex.closing (listEnvironment kind))
  | .quote parts => quotePieces (piecesOfParts parts)
  | .listing _ => []
  | .rule => [.markup "\\hrule".toList]
  | .table tokens => tablePieces options tokens
  | .passed _ => []

/-- The pieces of parts, one by one. -/
def piecesOfParts : List Part → List (List Piece)
  | [] => []
  | part :: parts => part.pieces :: piecesOfParts parts

/-- The pieces of items, one by one. -/
def piecesOfItems : List (List Part) → List (List Piece)
  | [] => []
  | parts :: items => itemPieces (piecesOfParts parts) :: piecesOfItems items

end

/-- The pieces of a body. -/
def bodyPieces (tokens : List Token) : List Piece :=
  joinBlocks ['\n', '\n'] (piecesOfParts options (outline tokens))

/-! ## A body is written in its pieces -/

/-- Blocks are written in their pieces, one by one. -/
abbrev WritesBlocks (blocks : List (List Piece)) (fragments : List Fragment) : Prop :=
  blocks.map writePieces = fragments.map Fragment.text

/-- Blocks that are joined as pieces are written as blocks that are joined as texts. -/
theorem write_joinBlocks (separator : Text) {blocks : List (List Piece)}
    {fragments : List Fragment} (h : WritesBlocks blocks fragments) :
    writePieces (joinBlocks separator blocks) =
      List.intercalate separator (Fragment.texts fragments) := by
  have hfilter : (blocks.filter fun pieces => !(writePieces pieces).isEmpty).map writePieces =
      (blocks.map writePieces).filter (!·.isEmpty) := by
    rw [List.filter_map]
    rfl
  rw [joinBlocks, Tex.writePieces_joinPieces, hfilter, h, Fragment.texts]

/-- The pieces of an item are written as the item is emitted. -/
theorem write_itemPieces {blocks : List (List Piece)} {fragments : List Fragment}
    (h : WritesBlocks blocks fragments) :
    writePieces (itemPieces blocks) = (renderItem fragments).text := by
  have hbody := write_joinBlocks ['\n'] h
  rw [itemPieces, renderItem]
  show _ = if (List.intercalate ['\n'] (Fragment.texts fragments)).isEmpty then "\\item".toList
    else "\\item ".toList ++ List.intercalate ['\n'] (Fragment.texts fragments)
  simp only [hbody]
  split
  · rfl
  · rw [Tex.writePieces_cons, Tex.writePieces_cons, hbody]
    rfl

/-- The pieces of a quote are written as the quote is emitted. -/
theorem write_quotePieces {blocks : List (List Piece)} {fragments : List Fragment}
    (h : WritesBlocks blocks fragments) :
    writePieces (quotePieces blocks) = (renderQuote fragments).text := by
  have hbody := write_joinBlocks ['\n', '\n'] h
  have hopening : writePieces [.markup (Tex.opening "quote")] = Tex.opening "quote" :=
    List.append_nil _
  rw [quotePieces, renderQuote, Tex.writePieces_linePieces]
  show _ = List.intercalate ['\n'] (Tex.opening "quote" ::
    (if (List.intercalate ['\n', '\n'] (Fragment.texts fragments)).isEmpty then []
      else [List.intercalate ['\n', '\n'] (Fragment.texts fragments)]) ++ [Tex.closing "quote"])
  simp only [hbody]
  rw [List.map_cons, hopening]
  -- a quote without blocks is left without a line between its commands
  split
  · rfl
  · rw [List.map_singleton, hbody]

/-- The cells of a table are running texts. -/
theorem looseRows_map (rows : List (List (List Token))) :
    Table.LooseRows (rows.map fun row => row.map inlinePieces) := by
  rw [Table.LooseRows, List.forall_mem_map]
  intro row _
  rw [List.forall_mem_map]
  intro children _
  exact loose_inlinePieces children

/-- The pieces of the cells are written as the cells are emitted. -/
theorem map_writePieces_cells {rows : List (List (List Token))}
    (h : ∀ row ∈ rows, ∀ children ∈ row, NoneVerbatim (constructsOfInlines children)) :
    (rows.map fun row => row.map inlinePieces).map (fun row => row.map writePieces) =
      rows.map emittedCells := by
  rw [List.map_map]
  apply List.map_congr_left
  intro row hrow
  rw [Function.comp_apply, List.map_map, emittedCells]
  apply List.map_congr_left
  intro children hchildren
  exact write_inlinePieces (h row hrow children hchildren)

/-- A table that could not be laid out has no pieces. -/
theorem tablePieces_of_error {tokens : List Token} {cause : Table.SpecFault}
    (h : Table.layout options ((rowsFrom [] tokens).map emittedCells)
      ((rowsFrom [] tokens).map measuredCells) (alignmentsFrom false tokens) = .error cause) :
    tablePieces options tokens = [] := by
  rw [Table.layout] at h
  rw [tablePieces]
  split at h
  · cases h
  · split
    · rename_i spec hspec
      simp [hspec, bind, Except.bind, pure, Except.pure] at h
    · rfl

/-- The pieces of a table are written as the table is emitted. -/
theorem write_tablePieces {tokens : List Token}
    (h : NoneVerbatim (constructsOfTable options tokens)) :
    writePieces (tablePieces options tokens) = (renderTable options tokens).text := by
  -- a table that could not be laid out is left out of the pieces too
  rcases renderTable_cases options tokens with ⟨⟨cause, hlayout⟩, htext⟩ |
    ⟨table, hlayout, htext, hcells⟩
  · rw [htext, tablePieces_of_error options hlayout]
    rfl
  rw [htext, tablePieces]
  rcases Table.layout_cases hlayout with ⟨hrows, rfl⟩ | ⟨hrows, spec, hspec, henv, hcode, -⟩
  · rw [List.map_eq_nil_iff] at hrows
    rw [hrows]
    simp only
    split <;> rfl
  · have hne : ¬ (rowsFrom [] tokens).isEmpty = true := by
      intro hempty
      rw [List.isEmpty_iff.1 hempty] at hrows
      exact hrows rfl
    -- the cells need be written as they are emitted only where the table is laid out
    have hwritten := map_writePieces_cells fun row hrow children hchildren construct hconstruct =>
      h construct (hcells row hrow children hchildren hconstruct)
    rw [henv] at hspec hcode
    simp only [hspec]
    rw [if_neg hne, Table.writePieces_tablePieces _ _ _ (looseRows_map _), hwritten, hcode]

mutual

/-- The pieces of a part are written as the part is emitted, where nothing in it is kept as it is.
-/
theorem write_part :
    ∀ part : Part, NoneVerbatim (part.constructs options) →
      writePieces (part.pieces options) = (part.render options).text
  | .heading level text, h => by
    rw [Part.constructs] at h
    rw [Part.pieces, Part.render, Tex.writePieces_append, Tex.writePieces_cons,
      write_inlinePieces h]
    simp [Piece.write, Fragment.mapText, Tex.command, Tex.braced]
  | .unreadable _, _ => by
    rw [Part.pieces, Part.render]
    rfl
  | .paragraph _, h => by
    rw [Part.constructs] at h
    rw [Part.pieces, Part.render, write_inlinePieces h]
  | .list kind items, h => by
    rw [Part.constructs] at h
    rw [Part.pieces, Part.render, renderList_eq, environmentLines, Tex.writePieces_linePieces,
      List.map_cons, write_items items h]
    simp [Piece.write]
  | .quote parts, h => by
    rw [Part.constructs] at h
    rw [Part.pieces, Part.render, write_quotePieces (write_parts parts h)]
  | .listing t, h => by
    -- the code of a listing would stand as it was written
    rw [Part.constructs, constructsOfListing] at h
    exact nomatch h (.listing t.content) List.mem_cons_self
  | .rule, _ => by
    rw [Part.pieces, Part.render]
    rfl
  | .table _, h => by
    rw [Part.constructs] at h
    rw [Part.pieces, Part.render, write_tablePieces options h]
  | .passed t, _ => by
    rw [Part.pieces, Part.render, renderPassed]
    split <;> rfl

/-- The pieces of parts are written as the parts are emitted. -/
theorem write_parts :
    ∀ parts : List Part, NoneVerbatim (constructsOfParts options parts) →
      WritesBlocks (piecesOfParts options parts) (renderParts options parts)
  | [], _ => by
    rw [piecesOfParts, renderParts]
    rfl
  | part :: parts, h => by
    rw [constructsOfParts, noneVerbatim_append] at h
    rw [piecesOfParts, renderParts, WritesBlocks, List.map_cons, List.map_cons,
      write_part part h.1, write_parts parts h.2]

/-- The pieces of items are written as the items are emitted. -/
theorem write_items :
    ∀ items : List (List Part), NoneVerbatim (constructsOfItems options items) →
      WritesBlocks (piecesOfItems options items) (renderItemParts options items)
  | [], _ => by
    rw [piecesOfItems, renderItemParts]
    rfl
  | parts :: items, h => by
    rw [constructsOfItems, noneVerbatim_append] at h
    rw [piecesOfItems, renderItemParts, WritesBlocks, List.map_cons, List.map_cons,
      write_itemPieces (write_parts parts h.1), write_items items h.2]

end

/-- Where nothing is kept as it is, a body is written in its pieces. -/
theorem write_bodyPieces {tokens : List Token} (h : NoneVerbatim (constructs options tokens)) :
    writePieces (bodyPieces options tokens) = (render options tokens).text := by
  rw [render_eq, bodyPieces, write_joinBlocks ['\n', '\n'] (write_parts options _ h)]
  rfl

/-! ## The pieces of a body are faithful -/

/-- Faithful blocks are faithful when they are joined by a faithful separator. -/
theorem faithful_joinBlocks {separator : Text} (hseparator : Faithful [.markup separator])
    {blocks : List (List Piece)} (h : ∀ pieces ∈ blocks, Faithful pieces) :
    Faithful (joinBlocks separator blocks) :=
  Tex.faithful_joinPieces hseparator fun pieces hpieces => h pieces ((List.mem_filter.1 hpieces).1)

/-- A blank line is faithful: it is no command and shows nothing. -/
theorem faithful_blankLine : Faithful [.markup ['\n', '\n']] :=
  Tex.faithful_markup (Tex.inert_of_not_mem (by decide)) (Piece.honest_of_first? (by decide))

/-- An item is faithful as a line. -/
theorem faithful_itemPieces {blocks : List (List Piece)} (h : ∀ pieces ∈ blocks, Faithful pieces) :
    Faithful (itemPieces blocks ++ [.markup ['\n']]) := by
  have hbody := faithful_joinBlocks Tex.faithful_lineFeed h
  have hitem : Faithful [.seeker .item, .markup [' ']] := Tex.faithful_seeker .item rfl
  rw [itemPieces]
  split
  · exact Tex.faithful_seeker .item rfl
  · exact (hitem.append hbody).append Tex.faithful_lineFeed

/-- An environment whose name holds no backslash, around faithful lines. -/
theorem faithful_environment {name : String} (hname : '\\' ∉ name.toList)
    {lines : List (List Piece)} (h : ∀ line ∈ lines, Faithful (line ++ [.markup ['\n']])) :
    Faithful (linePieces ([.markup (Tex.opening name)] :: lines) (Tex.closing name)) := by
  have hopening : Faithful [.markup (Tex.opening name)] :=
    Tex.faithful_backslash (Tex.inert_opening hname) rfl
  have hclosing : Faithful [.markup (Tex.closing name)] :=
    Tex.faithful_backslash (Tex.inert_closing hname) rfl
  apply Tex.faithful_linePieces hclosing
  rw [List.forall_mem_cons]
  exact ⟨hopening.append Tex.faithful_lineFeed, h⟩

/-- The pieces of a quote are faithful if those of its blocks are. -/
theorem faithful_quotePieces {blocks : List (List Piece)} (h : ∀ pieces ∈ blocks, Faithful pieces) :
    Faithful (quotePieces blocks) := by
  have hbody := faithful_joinBlocks faithful_blankLine h
  apply faithful_environment (by decide)
  split
  · exact List.forall_mem_nil _
  · rw [List.forall_mem_singleton]
    exact hbody.append Tex.faithful_lineFeed

/-- The pieces of a table are faithful, whatever is in its cells. -/
theorem faithful_tablePieces (tokens : List Token) : Faithful (tablePieces options tokens) := by
  rw [tablePieces]
  split
  · rename_i spec hspec
    split
    · exact Tex.faithful_nil
    · exact Table.faithful_tablePieces _ _ (Table.inert_columnSpec hspec) (looseRows_map _)
  · exact Tex.faithful_nil

/-- The command of a heading looks for no optional argument. -/
theorem loose_headingCommand (level : Int) :
    (Piece.markup ('\\' :: ((headingCommand level).toList ++ ['{']))).Loose := by
  have hcommands : ∀ command ∈ headingCommands, Tex.IsOtherName command.toList := by
    decide
  exact loose_command _ (hcommands _ (headingCommand_mem level))

mutual

/-- The pieces of every part are faithful. -/
theorem faithful_part : ∀ part : Part, Faithful (part.pieces options)
  | .heading level text => by
    rw [Part.pieces]
    apply Tex.faithful_of_loose
    rw [List.cons_append, List.forall_mem_cons, List.forall_mem_append, List.forall_mem_singleton]
    exact ⟨loose_headingCommand level, loose_inlinePieces text, loose_brace⟩
  | .unreadable _ => by
    rw [Part.pieces]
    exact Tex.faithful_nil
  | .paragraph text => by
    rw [Part.pieces]
    exact Tex.faithful_of_loose (loose_inlinePieces text)
  | .list kind items => by
    have hname : '\\' ∉ (listEnvironment kind).toList := by
      rw [listEnvironment]
      split <;> decide
    rw [Part.pieces]
    exact faithful_environment hname (faithful_items items)
  | .quote parts => by
    rw [Part.pieces]
    exact faithful_quotePieces (faithful_parts parts)
  | .listing _ => by
    rw [Part.pieces]
    exact Tex.faithful_nil
  | .rule => by
    -- the name of a rule is no name of a command that looks for arguments, nor the start of one
    have hrule : Inert ('\\' :: 'h' :: "rule".toList) :=
      Tex.inert_initial (by decide) (by decide) (by decide)
    rw [Part.pieces]
    exact Tex.faithful_backslash hrule rfl
  | .table tokens => by
    rw [Part.pieces]
    exact faithful_tablePieces options tokens
  | .passed _ => by
    rw [Part.pieces]
    exact Tex.faithful_nil

/-- The pieces of parts are faithful, part by part. -/
theorem faithful_parts :
    ∀ parts : List Part, ∀ pieces ∈ piecesOfParts options parts, Faithful pieces
  | [] => by
    rw [piecesOfParts]
    exact List.forall_mem_nil _
  | part :: parts => by
    rw [piecesOfParts, List.forall_mem_cons]
    exact ⟨faithful_part part, faithful_parts parts⟩

/-- The pieces of items are faithful, each with the line end behind it. -/
theorem faithful_items :
    ∀ items : List (List Part), ∀ pieces ∈ piecesOfItems options items,
      Faithful (pieces ++ [.markup ['\n']])
  | [] => by
    rw [piecesOfItems]
    exact List.forall_mem_nil _
  | parts :: items => by
    rw [piecesOfItems, List.forall_mem_cons]
    exact ⟨faithful_itemPieces (faithful_parts parts), faithful_items items⟩

end

/-- The pieces of a body are faithful. -/
theorem faithful_bodyPieces (tokens : List Token) : Faithful (bodyPieces options tokens) :=
  faithful_joinBlocks faithful_blankLine (faithful_parts options _)

/-- **A command finds a sign of an argument exactly where the document puts one there.** A body
without formulas, images and code blocks is written in its pieces. The commands that are read in it
are those among the pieces, in order, each with the first character of the piece that it looks at.
And that character is a bracket or a star exactly if the piece is this very character of the
document. -/
theorem seekers_render (tokens : List Token)
    (h : ∀ construct ∈ constructs options tokens, construct.verbatim? = none) :
    writePieces (bodyPieces options tokens) = (render options tokens).text ∧
      Tex.seekers (render options tokens).text =
        (followers (bodyPieces options tokens)).map
          (fun follower => (follower.1, follower.2.bind Piece.first?)) ∧
      ∀ follower ∈ followers (bodyPieces options tokens), ∀ c ∈ argumentSigns,
        follower.2.bind Piece.first? = some c ↔ follower.2 = some (.text c) := by
  have hwrite := write_bodyPieces options h
  obtain ⟨hseekers, hsigns⟩ := (faithful_bodyPieces options tokens).seekers_write
  rw [hwrite] at hseekers
  exact ⟨hwrite, hseekers, hsigns⟩

end

/-! ## An item that starts with a bracket -/

/-- A text that starts with a bracket. -/
def bracketText : List Token :=
  [{ kind := "text", content := ['[', 'x', ']', ' ', 'a'] }]

/-- An item of this text. -/
def bracketItem : List Token :=
  [{ kind := "bullet_list_open" },
    { kind := "list_item_open" },
    { kind := "paragraph_open" },
    { kind := "inline", children := some bracketText },
    { kind := "paragraph_close" },
    { kind := "list_item_close" },
    { kind := "bullet_list_close" }]

/-- An item with a bracket in it is read as a list of one paragraph. -/
theorem outline_bracketItem :
    outline bracketItem = [.list "bullet_list_open" [[.paragraph bracketText]]] := by
  have hlist : Markdown.lengthOf { kind := "bullet_list_open" } bracketItem.tail = 5 := by
    decide
  have hitem : Markdown.lengthOf { kind := "list_item_open" } bracketItem.tail.tail = 3 := by
    decide
  have hparagraph :
      Markdown.lengthOf { kind := "paragraph_open" } bracketItem.tail.tail.tail = 1 := by
    decide
  simp only [bracketItem, List.tail_cons] at hlist hitem hparagraph
  simp [outline, bracketItem, outlineBlocks, outlineBlock, outlineItems, nextInlines,
    Token.inlines, hlist, hitem, hparagraph]

/-- Nothing of an item with a bracket is emitted as it was written. -/
theorem noneVerbatim_bracketItem : NoneVerbatim (constructs {} bracketItem) := by
  have htext : constructsOfInlines bracketText = [] := by
    decide +kernel
  simp [NoneVerbatim, constructs, outline_bracketItem, constructsOfParts, Part.constructs,
    constructsOfItems, htext]

/-- An item that starts with a bracket: its command finds the bracket. -/
theorem seekers_render_bracketItem :
    (∀ construct ∈ constructs {} bracketItem, construct.verbatim? = none) ∧
      followers (bodyPieces {} bracketItem) = [(.item, some (.text '['))] ∧
      Tex.seekers (render {} bracketItem).text = [(.item, some '[')] := by
  have hpieces : inlinePieces bracketText = ['[', 'x', ']', ' ', 'a'].map .text := by
    decide +kernel
  have hfollowers : followers (bodyPieces {} bracketItem) = [(.item, some (.text '['))] := by
    simp [bodyPieces, outline_bracketItem, piecesOfParts, Part.pieces, piecesOfItems, itemPieces,
      joinBlocks, linePieces, hpieces]
    decide
  obtain ⟨-, hseekers, -⟩ := seekers_render {} bracketItem noneVerbatim_bracketItem
  rw [hfollowers] at hseekers
  exact ⟨noneVerbatim_bracketItem, hfollowers, hseekers⟩

/-- The bracket that starts the text of an item is taken for an argument. -/
theorem not_guarded_bracketItem :
    (render {} bracketItem).text = "\\begin{itemize}\n\\item [x] a\n\\end{itemize}".toList ∧
      ¬ ∀ tokens : List Token,
        (∀ construct ∈ constructs {} tokens, construct.verbatim? = none) →
          ∀ command, (command, some '[') ∉ Tex.seekers (render {} tokens).text := by
  have htext : (renderInlines bracketText).text = ['[', 'x', ']', ' ', 'a'] := by
    decide +kernel
  have hcontent : (render {} bracketItem).text =
      "\\begin{itemize}\n\\item [x] a\n\\end{itemize}".toList := by
    simp [render_eq, outline_bracketItem, renderParts, Part.render, renderItemParts,
      Fragment.joinWith, Fragment.texts, renderList_eq, listEnvironment, renderItem,
      Fragment.mapText, environmentLines, List.intercalate, htext]
    rfl
  refine ⟨hcontent, fun hguarded => ?_⟩
  -- the command of the item would have to find no bracket here
  have hnone := hguarded bracketItem noneVerbatim_bracketItem .item
  rw [hcontent] at hnone
  exact hnone (by decide)

end MarkTex.Body
