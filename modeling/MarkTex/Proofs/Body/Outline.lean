import MarkTex.Body.Block
import MarkTex.Proofs.Body.Fragment

/-!
# The outline of a body

Any list of tokens, balanced or not, is emitted as a tree of parts: each part is what one block
makes of the tokens it takes. A token may be part of several blocks, and of none. What holds of
every body is proved by recursion on its outline.

## Shape of the proof

`outlineBlocks` takes the same tokens as `renderBlocks` and keeps what a block is made of in place
of what it is emitted as. The two are compared block by block (`renderBlocks_eq`), by recursion on
the tokens that are left.
-/

namespace MarkTex.Body

open Markdown (Token lengthOf tokensToClose)

/-- A part of a body: what a block makes of its tokens. -/
inductive Part where
  /-- A heading, with the children of its running text. -/
  | heading (level : Int) (text : List Token)
  /-- A heading whose level cannot be read. -/
  | unreadable (cause : Number.NumeralFault)
  /-- A paragraph, with the children of its running text. -/
  | paragraph (text : List Token)
  /-- A list that a token of the given kind opens. -/
  | list (kind : String) (items : List (List Part))
  | quote (parts : List Part)
  | listing (t : Token)
  | rule
  /-- A table, with the tokens of its rows. -/
  | table (tokens : List Token)
  /-- A token that has no form of its own. -/
  | passed (t : Token)

/-! ## Emitting parts -/

/-- The token that closes a block without a form leaves no trace; any other is reported. -/
def renderPassed (t : Token) : Fragment :=
  if t.isClosing then {} else .ofNotice (passedOver t.kind)

section

variable (options : Table.Options)

mutual

/-- A part as it is emitted. -/
def Part.render : Part → Fragment
  | .heading level text => (renderInlines text).mapText (Tex.command (headingCommand level))
  | .unreadable cause => { fault := some (.headingLevel cause) }
  | .paragraph text => renderInlines text
  | .list kind items => renderList (listEnvironment kind) (renderItemParts items)
  | .quote parts => renderQuote (renderParts parts)
  | .listing t => renderListing t
  | .rule => .ofText "\\hrule".toList
  | .table tokens => renderTable options tokens
  | .passed t => renderPassed t

/-- Parts as they are emitted, one by one. -/
def renderParts : List Part → List Fragment
  | [] => []
  | part :: parts => part.render :: renderParts parts

/-- Items as they are emitted, one by one. -/
def renderItemParts : List (List Part) → List Fragment
  | [] => []
  | parts :: items => renderItem (renderParts parts) :: renderItemParts items

end

end

/-! ## The outline of a list of tokens -/

/-- The children of the inline token that the tokens start with, if they do. -/
def nextInlines : List Token → List Token
  | t :: _ => if t.kind = "inline" then t.inlines else []
  | [] => []

/-- The part that a heading is. -/
def outlineHeading (tag : String) (text : List Token) : Part :=
  match headingLevel tag with
  | .ok level => .heading level text
  | .error cause => .unreadable cause

mutual

/-- The parts that start among the first `count` of the tokens. -/
def outlineBlocks (count : Nat) : List Token → List Part
  | [] => []
  | t :: rest =>
    match count with
    | 0 => []
    | count + 1 =>
      let (part, taken) := outlineBlock t rest
      part :: outlineBlocks (count - taken) (rest.drop taken)
termination_by tokens => (tokens.length, 1)
decreasing_by
  · simp_wf; exact Prod.Lex.right _ Nat.zero_lt_one
  · simp_wf; exact Prod.Lex.left _ _ (by omega)

/-- The part that `t` starts, and the number of tokens that it takes of those that follow. -/
def outlineBlock (t : Token) (rest : List Token) : Part × Nat :=
  if t.kind = "heading_open" then (outlineHeading t.tag (nextInlines rest), lengthOf t rest + 1)
  else if t.kind = "paragraph_open" then (.paragraph (nextInlines rest), lengthOf t rest + 1)
  else if t.kind = "bullet_list_open" || t.kind = "ordered_list_open" then
    (.list t.kind (outlineItems (lengthOf t rest) rest), lengthOf t rest + 1)
  else if t.kind = "blockquote_open" then
    (.quote (outlineBlocks (lengthOf t rest) rest), lengthOf t rest + 1)
  else if t.kind = "fence" || t.kind = "code_block" then (.listing t, 0)
  else if t.kind = "hr" then (.rule, 0)
  else if t.kind = "table_open" then (.table (rest.take (lengthOf t rest)), lengthOf t rest + 1)
  else (.passed t, 0)
termination_by (rest.length + 1, 0)
decreasing_by all_goals exact Prod.Lex.left _ _ (by omega)

/-- The items that start among the first `count` of the tokens. -/
def outlineItems (count : Nat) : List Token → List (List Part)
  | [] => []
  | t :: rest =>
    match count with
    | 0 => []
    | count + 1 =>
      if t.kind = "list_item_open" then
        outlineBlocks (min (lengthOf t rest) count) rest ::
          outlineItems (count - (lengthOf t rest + 1)) (rest.drop (lengthOf t rest + 1))
      else outlineItems count rest
termination_by tokens => (tokens.length, 1)
decreasing_by all_goals (simp_wf; exact Prod.Lex.left _ _ (by omega))

end

/-- The outline of a body. -/
def outline (tokens : List Token) : List Part :=
  outlineBlocks tokens.length tokens

/-! ## A body is emitted as its outline -/

theorem renderInlines_nil : renderInlines [] = {} :=
  rfl

/-- The running text behind a token is that of the inline token next to it, if there is one. -/
theorem renderNextInline_eq (rest : List Token) :
    renderNextInline rest = renderInlines (nextInlines rest) := by
  cases rest with
  | nil => rfl
  | cons t rest =>
    rw [renderNextInline, nextInlines]
    split
    · rfl
    · rw [renderInlines_nil]

/-- Where tokens are cut off and no running text starts, they start with the same running text. -/
theorem nextInlines_take {tokens : List Token} {count : Nat}
    (h : nextInlines (tokens.drop count) = []) :
    nextInlines (tokens.take count) = nextInlines tokens := by
  cases count with
  | zero => exact h.symm
  | succ count => cases tokens <;> rfl

/-- Whatever stands behind the tokens of a block, its running text does not reach there. -/
theorem nextInlines_drop_tokensToClose (openKind : String) {closeKind : String}
    (h : closeKind ≠ "inline") (depth : Nat) (tokens : List Token) :
    nextInlines (tokens.drop (tokensToClose openKind closeKind depth tokens)) = [] := by
  induction tokens generalizing depth with
  | nil => rfl
  | cons t rest ih =>
    rw [tokensToClose]
    split
    · exact ih _
    split
    · -- the token that closes the block is no running text
      rename_i hclose
      split
      · rw [List.drop_zero, nextInlines, if_neg (by rwa [hclose])]
      · exact ih _
    · exact ih _

section

variable (options : Table.Options)

/-- A heading is emitted as its part of the outline. -/
theorem renderHeading_eq (tag : String) (text : List Token) :
    renderHeading tag (renderInlines text) = (outlineHeading tag text).render options := by
  rw [renderHeading, outlineHeading]
  cases headingLevel tag with
  | ok level => rw [Part.render]
  | error cause => rw [Part.render]

mutual

/-- Blocks are emitted as their parts of the outline. -/
theorem renderBlocks_eq (count : Nat) (tokens : List Token) :
    renderBlocks options count tokens = renderParts options (outlineBlocks count tokens) := by
  match tokens, count with
  | [], count => rw [renderBlocks, outlineBlocks, renderParts]
  | t :: rest, 0 => rw [renderBlocks, outlineBlocks, renderParts]
  | t :: rest, count + 1 =>
    rw [renderBlocks, outlineBlocks, renderBlock_eq t rest]
    simp only
    rw [renderBlocks_eq, renderParts]
termination_by (tokens.length, 1)
decreasing_by
  · simp_wf; exact Prod.Lex.right _ Nat.zero_lt_one
  · simp_wf; exact Prod.Lex.left _ _ (by omega)

/-- A block is emitted as the part that it makes, and takes the same tokens. -/
theorem renderBlock_eq (t : Token) (rest : List Token) :
    renderBlock options t rest =
      ((outlineBlock t rest).1.render options, (outlineBlock t rest).2) := by
  -- both go through the same kinds, in the same order
  rw [renderBlock, outlineBlock]
  split
  · rw [renderNextInline_eq, renderHeading_eq options]
  split
  · rw [renderNextInline_eq, Part.render]
  split
  · rw [Part.render, ← renderItems_eq]
  split
  · rw [Part.render, ← renderBlocks_eq]
  split
  · rw [Part.render]
  split
  · rw [Part.render]
  split
  · rw [Part.render]
  · rw [Part.render, renderPassed]
    split <;> rfl
termination_by (rest.length + 1, 0)
decreasing_by all_goals exact Prod.Lex.left _ _ (by omega)

/-- Items are emitted as their parts of the outline. -/
theorem renderItems_eq (count : Nat) (tokens : List Token) :
    renderItems options count tokens = renderItemParts options (outlineItems count tokens) := by
  match tokens, count with
  | [], count => rw [renderItems, outlineItems, renderItemParts]
  | t :: rest, 0 => rw [renderItems, outlineItems, renderItemParts]
  | t :: rest, count + 1 =>
    rw [renderItems, outlineItems]
    split
    · rw [renderItemParts, ← renderBlocks_eq, ← renderItems_eq]
    · rw [renderItems_eq]
termination_by (tokens.length, 1)
decreasing_by all_goals (simp_wf; exact Prod.Lex.left _ _ (by omega))

end

/-- **A body is emitted as its outline is**, whether its tokens are balanced or not. -/
theorem render_eq (tokens : List Token) :
    render options tokens =
      Fragment.joinWith ['\n', '\n'] (renderParts options (outline tokens)) := by
  rw [render, outline, renderBlocks_eq]

end

end MarkTex.Body
