import MarkTex.Proofs.Body.Block
import MarkTex.Proofs.Body.Rows
import MarkTex.Proofs.Markdown.Closing

/-!
# Bodies of block trees

What a tree is set as can be told by recursion on the tree, without its tokens: each block from
itself alone, in order, and what it needs with it (`setBlock`, `setBody`). Emitting the tokens of
the trees laid flat gives just that, although the bounds of each block have to be found again by
counting.

## Shape of the proof

`lengthOf_enclose` finds the end of each block that holds something. So a block is emitted as it is
set, and takes up all of its tokens, whatever stands behind them (`beginsBlock_flatten`); this goes
through the items of lists and the blocks of quotations by recursion on the tree.
-/

namespace MarkTex.Body

open Markdown (Token Block Item enclose tagToken flattenBlocks flattenItems lengthOf)

/-! ## Setting trees -/

section

variable (options : Table.Options)

/-- A table of the given rows. -/
def setTable (alignments : List (Option Table.Alignment)) (header : List Running)
    (rows : List (List Running)) : Fragment :=
  let kept := keptRows (header :: rows)
  let needs := .needing { tables := true } [] ++ cellNeeds (header :: rows)
  match Table.layout options (kept.map emittedRow) (kept.map measuredRow)
      (headerAlignments alignments header) with
  | .ok table =>
    needs ++
      { text := table.code
        features := { packages := Packages.ofNames table.packages }
        notices := table.notices }
  | .error cause => needs ++ { fault := some (.tableColumns cause) }

mutual

/-- What a block is set as. -/
def setBlock : Block Running → Fragment
  | .heading level text => renderHeading ("h" ++ toString level) (renderInlines text.children)
  | .paragraph text => renderInlines text.children
  | .list start items =>
    let items := setItems items
    { Fragment.concat items with
      text := environmentLines (if start.isSome then "enumerate" else "itemize")
        (items.map (·.text)) }
  | .quote blocks =>
    let blocks := setBlocks blocks
    let body := List.intercalate ['\n', '\n'] ((blocks.map (·.text)).filter (!·.isEmpty))
    { Fragment.concat blocks with
      text := environmentLines "quote" (if body.isEmpty then [] else [body]) }
  | .fence info code => renderListing { kind := "fence", info, content := code }
  | .code code => renderListing { kind := "code_block", content := code }
  | .rule => .ofText "\\hrule".toList
  | .markup _ => .ofNotice (passedOver "html_block")
  | .table alignments header rows => setTable options alignments header rows

/-- What an item is set as. -/
def setItem : Item Running → Fragment
  | .mk _ blocks =>
    let blocks := setBlocks blocks
    let body := List.intercalate ['\n'] ((blocks.map (·.text)).filter (!·.isEmpty))
    { Fragment.concat blocks with
      text := if body.isEmpty then "\\item".toList else "\\item ".toList ++ body }

/-- What blocks are set as, one by one. -/
def setBlocks : List (Block Running) → List Fragment
  | [] => []
  | block :: blocks => setBlock block :: setBlocks blocks

/-- What items are set as, one by one. -/
def setItems : List (Item Running) → List Fragment
  | [] => []
  | item :: items => setItem item :: setItems items

end

/-- Blocks are set one by one. -/
theorem setBlocks_eq_map (blocks : List (Block Running)) :
    setBlocks options blocks = blocks.map (setBlock options) := by
  induction blocks with
  | nil => rfl
  | cons block blocks ih => rw [setBlocks, ih, List.map_cons]

/-- Items are set one by one. -/
theorem setItems_eq_map (items : List (Item Running)) :
    setItems options items = items.map (setItem options) := by
  induction items with
  | nil => rfl
  | cons item items ih => rw [setItems, ih, List.map_cons]

/-- The body of block trees. -/
def setBody (forest : List (Block Running)) : Fragment :=
  let blocks := setBlocks options forest
  { Fragment.concat blocks with
    text := List.intercalate ['\n', '\n'] ((blocks.map (·.text)).filter (!·.isEmpty)) }

end

/-! ## Blocks without blocks inside -/

mutual

/-- The blocks in a block that hold no blocks themselves, at any depth. -/
def leaves : Block Running → List (Block Running)
  | .list _ items => leavesOfItems items
  | .quote blocks => leavesOfBlocks blocks
  | block => [block]

/-- The blocks in blocks that hold no blocks themselves. -/
def leavesOfBlocks : List (Block Running) → List (Block Running)
  | [] => []
  | block :: blocks => leaves block ++ leavesOfBlocks blocks

/-- The blocks in items that hold no blocks themselves. -/
def leavesOfItems : List (Item Running) → List (Block Running)
  | [] => []
  | .mk _ blocks :: items => leavesOfBlocks blocks ++ leavesOfItems items

end

/-! ## Tables -/

/-- The tokens of a table are emitted as the table is set: each row has its cells, and each cell of
the header its alignment. -/
theorem renderTable_tableTokens (options : Table.Options)
    (alignments : List (Option Table.Alignment)) (header : List Running)
    (rows : List (List Running)) :
    renderTable options (tableTokens alignments header rows) =
      setTable options alignments header rows := by
  unfold renderTable
  rw [collectCells_tableTokens]
  rfl

/-! ## Trees laid flat -/

section

variable (options : Table.Options)

/-- The opening token of a block begins the block, which takes up all its tokens. -/
def BeginsBlock (tokens : List Token) (fragment : Fragment) : Prop :=
  ∃ t rest, tokens = t :: rest ∧
    ∀ post, renderBlock options t (rest ++ post) = (fragment, rest.length)

/-- A block that one token stands for. -/
theorem beginsBlock_single {t : Token} {fragment : Fragment}
    (h : ∀ post, renderBlock options t post = (fragment, 0)) :
    BeginsBlock options [t] fragment :=
  ⟨t, [], rfl, h⟩

/-- A block between tokens of one name is emitted up to its last token. -/
theorem beginsBlock_enclose (name : String) {opener closer : Token} {inner : List Token}
    {fragment : Fragment} (ho : opener.kind = name ++ "_open") (hc : closer.kind = name ++ "_close")
    (hpasses : Markdown.Passes (name ++ "_open") (name ++ "_close") inner)
    (h : ∀ post, lengthOf opener (inner ++ closer :: post) = inner.length →
      renderBlock options opener (inner ++ closer :: post) = (fragment, inner.length + 1)) :
    BeginsBlock options (enclose opener inner closer) fragment := by
  refine ⟨opener, inner ++ [closer], rfl, fun post => ?_⟩
  have hlength := Markdown.lengthOf_enclose post ho hc hpasses
  rw [List.append_assoc, List.singleton_append, h post hlength, List.length_append,
    List.length_singleton]

/-- A running text is one inline token. -/
theorem token_kind (text : Running) : text.token.kind = "inline" :=
  rfl

mutual

/-- The tokens of a block are emitted as what the block is set as. -/
theorem beginsBlock_flatten :
    ∀ block : Block Running,
      BeginsBlock options (block.flatten Running.token) (setBlock options block)
  | .heading level text => by
    refine beginsBlock_enclose options "heading" rfl rfl
      (Markdown.passes_inline token_kind text) fun post hlength => ?_
    rw [renderBlock_heading options _ rfl, hlength]
    rfl
  | .paragraph text => by
    refine beginsBlock_enclose options "paragraph" rfl rfl
      (Markdown.passes_inline token_kind text) fun post hlength => ?_
    rw [renderBlock_paragraph options _ rfl, hlength]
    rfl
  | .list none items => by
    refine beginsBlock_enclose options "bullet_list" rfl rfl
      (Markdown.passes_flattenItems token_kind _ items) fun post hlength => ?_
    -- the tokens up to the end of the list are those of its items, and nothing of `post`
    rw [renderBlock_list options _ (.inl rfl), hlength, renderItems_flatten items, renderList_eq,
      setBlock]
    rfl
  | .list (some start) items => by
    refine beginsBlock_enclose options "ordered_list" rfl rfl
      (Markdown.passes_flattenItems token_kind _ items) fun post hlength => ?_
    rw [renderBlock_list options _ (.inr rfl), hlength, renderItems_flatten items, renderList_eq,
      setBlock]
    rfl
  | .quote blocks => by
    refine beginsBlock_enclose options "blockquote" rfl rfl
      (Markdown.passes_flattenBlocks token_kind _ blocks) fun post hlength => ?_
    rw [renderBlock_quote options _ rfl, hlength, renderBlocks_flatten blocks, setBlock]
    rfl
  | .fence info code => by
    -- code is a token by itself, so nothing has to be found again
    refine beginsBlock_single options fun post => ?_
    rw [renderBlock_listing options _ (.inl rfl)]
    rfl
  | .code code => by
    refine beginsBlock_single options fun post => ?_
    rw [renderBlock_listing options _ (.inr rfl)]
    rfl
  | .rule => beginsBlock_single options fun post => renderBlock_rule options _ rfl
  | .markup text => beginsBlock_single options fun post => renderBlock_markup options _ rfl
  | .table alignments header rows => by
    refine beginsBlock_enclose options "table" rfl rfl
      (Markdown.passes_tableTokens token_kind alignments header rows) fun post hlength => ?_
    rw [renderBlock_table options _ rfl, hlength, List.take_left, ← tableTokens,
      renderTable_tableTokens, setBlock]

/-- The tokens of blocks are emitted as what the blocks are set as, one by one. -/
theorem renderBlocks_flatten :
    ∀ (blocks : List (Block Running)) (post : List Token),
      renderBlocks options (flattenBlocks Running.token blocks).length
          (flattenBlocks Running.token blocks ++ post) =
        setBlocks options blocks
  | [], post => by
    cases post with
    | nil => simp [flattenBlocks, renderBlocks, setBlocks]
    | cons t post => simp [flattenBlocks, renderBlocks, setBlocks]
  | block :: blocks, post => by
    -- the count that is left is that of the other blocks, since this one takes just its own tokens
    obtain ⟨t, rest, hflatten, hblock⟩ := beginsBlock_flatten block
    rw [flattenBlocks, hflatten, List.cons_append, List.cons_append, List.length_cons,
      List.append_assoc, renderBlocks, hblock]
    simp only [List.length_append, Nat.add_sub_cancel_left, List.drop_left]
    rw [renderBlocks_flatten blocks post, setBlocks]

/-- The tokens of items are emitted as what the items are set as, one by one. -/
theorem renderItems_flatten :
    ∀ (items : List (Item Running)) (post : List Token),
      renderItems options (flattenItems Running.token items).length
          (flattenItems Running.token items ++ post) =
        setItems options items
  | [], post => by
    cases post with
    | nil => simp [flattenItems, renderItems, setItems]
    | cons t post => simp [flattenItems, renderItems, setItems]
  | .mk number blocks :: items, post => by
    -- the item takes its blocks and the token that closes it, and never more than the list has left
    let opener : Token := { tagToken "list_item_open" "li" with info := number }
    let closer := tagToken "list_item_close" "li"
    let inner := flattenBlocks Running.token blocks
    let others := flattenItems Running.token items
    have hlength : lengthOf opener (inner ++ closer :: (others ++ post)) = inner.length :=
      Markdown.lengthOf_enclose _ rfl rfl
        (Markdown.passes_flattenBlocks token_kind "list_item" blocks)
    have htokens : flattenItems Running.token (.mk number blocks :: items) ++ post =
        opener :: (inner ++ closer :: (others ++ post)) := by
      simp [flattenItems, Item.flatten, enclose, opener, closer, inner, others]
    have hcount : (flattenItems Running.token (.mk number blocks :: items)).length =
        inner.length + 1 + others.length + 1 := by
      simp [flattenItems, Item.flatten, enclose, inner, others]
      omega
    have hdrop : (inner ++ closer :: (others ++ post)).drop (inner.length + 1) =
        others ++ post := by
      rw [← List.drop_drop, List.drop_left]
      rfl
    rw [htokens, hcount, renderItems_item options _ _ rfl, hlength, hdrop,
      Nat.min_eq_left (by omega), Nat.add_sub_cancel_left, renderBlocks_flatten blocks,
      renderItems_flatten items post, setItems, setItem]
    rfl

end

end

/-! ## What trees need -/

section

variable (options : Table.Options)

/-- What a tree needs is what its leaves need. -/
abbrev leafNeeds (leaves : List (Block Running)) : Features :=
  Features.unionAll (leaves.map fun leaf => (setBlock options leaf).features)

theorem leafNeeds_append (leaves others : List (Block Running)) :
    leafNeeds options (leaves ++ others) =
      (leafNeeds options leaves).union (leafNeeds options others) := by
  rw [leafNeeds, List.map_append, Features.unionAll_append]

theorem leafNeeds_singleton (leaf : Block Running) :
    leafNeeds options [leaf] = (setBlock options leaf).features := by
  simp [leafNeeds]

mutual

/-- A block needs what its leaves need. -/
theorem features_setBlock :
    ∀ block : Block Running, (setBlock options block).features = leafNeeds options (leaves block)
  | .heading _ _ => (leafNeeds_singleton options _).symm
  | .paragraph _ => (leafNeeds_singleton options _).symm
  | .list _ items => by
    rw [setBlock, leaves, ← features_setItems items, ← Fragment.features_concat]
  | .quote blocks => by
    rw [setBlock, leaves, ← features_setBlocks blocks, ← Fragment.features_concat]
  | .fence _ _ => (leafNeeds_singleton options _).symm
  | .code _ => (leafNeeds_singleton options _).symm
  | .rule => (leafNeeds_singleton options _).symm
  | .markup _ => (leafNeeds_singleton options _).symm
  | .table _ _ _ => (leafNeeds_singleton options _).symm

/-- Blocks need what the leaves of all of them need. -/
theorem features_setBlocks :
    ∀ blocks : List (Block Running),
      Features.unionAll ((setBlocks options blocks).map (·.features)) =
        leafNeeds options (leavesOfBlocks blocks)
  | [] => rfl
  | block :: blocks => by
    rw [setBlocks, List.map_cons, Features.unionAll_cons, features_setBlock block,
      features_setBlocks blocks, leavesOfBlocks, leafNeeds_append]

/-- Items need what the leaves of all of them need. -/
theorem features_setItems :
    ∀ items : List (Item Running),
      Features.unionAll ((setItems options items).map (·.features)) =
        leafNeeds options (leavesOfItems items)
  | [] => rfl
  | .mk _ blocks :: items => by
    rw [setItems, List.map_cons, Features.unionAll_cons, setItem, features_setItems items,
      leavesOfItems, leafNeeds_append, ← features_setBlocks blocks, ← Fragment.features_concat]

end

/-! ## The body of a forest -/

/-- Whatever stands around a block laid flat, the block is emitted as it is set, and the position
behind it is found. -/
theorem renderBlockAt_flatten (pre post : List Token) (block : Block Running) :
    renderBlockAt options (pre ++ block.flatten Running.token ++ post) pre.length =
      (setBlock options block, pre.length + (block.flatten Running.token).length) := by
  obtain ⟨t, rest, hflatten, hblock⟩ := beginsBlock_flatten options block
  have hdrop : (pre ++ block.flatten Running.token ++ post).drop pre.length =
      t :: (rest ++ post) := by
    rw [List.append_assoc, List.drop_left, hflatten, List.cons_append]
  rw [renderBlockAt, hdrop]
  simp only [hblock, hflatten, List.length_cons, Prod.mk.injEq, true_and]
  omega

/-- **The body of trees laid flat is what the trees are set as**: each block once and in order, from
itself alone, and what it needs with it. What the whole body needs is the union over its leaves. And
a single block among any tokens is emitted as it is set, up to its last token. -/
theorem render_flatten_eq_setBody :
    (∀ forest : List (Block Running),
      render options (flattenBlocks Running.token forest) = setBody options forest ∧
        (setBody options forest).features =
          Features.unionAll
            ((leavesOfBlocks forest).map fun leaf => (setBlock options leaf).features)) ∧
      ∀ (pre post : List Token) (block : Block Running),
        renderBlockAt options (pre ++ block.flatten Running.token ++ post) pre.length =
          (setBlock options block, pre.length + (block.flatten Running.token).length) := by
  refine ⟨fun forest => ⟨?_, ?_⟩, renderBlockAt_flatten options⟩
  · have hblocks := renderBlocks_flatten options forest []
    rw [List.append_nil] at hblocks
    rw [render, hblocks]
    rfl
  · rw [setBody, Fragment.features_concat, features_setBlocks]

end

end MarkTex.Body
