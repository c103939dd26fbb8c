import MarkTex.Body.Block
import MarkTex.Proofs.Body.Fragment

/-!
# Blocks by the kinds of their tokens

The kind of a token tells the form of the block that it starts and the tokens that the block takes
(`renderBlock_heading`, …). Blocks that hold blocks need what these need, and put the texts into
lines of their own.
-/

namespace MarkTex.Body

open Markdown (Token lengthOf)

/-! ## Headings -/

/-- A level beyond the lowest still has a sectioning command. -/
theorem headingCommand_mem (level : Int) : headingCommand level ∈ headingCommands := by
  rw [headingCommand, List.getD_eq_getElem?_getD]
  cases hcommand : headingCommands[min (level.toNat - 1) 4]? with
  | none => decide
  | some command => exact List.mem_of_getElem? hcommand

/-! ## Blocks that hold blocks -/

/-- Texts in an environment, one on each line. -/
def environmentLines (name : String) (lines : List Text) : Text :=
  List.intercalate ['\n'] (Tex.opening name :: lines ++ [Tex.closing name])

/-- The lines around the items of a list need nothing. -/
theorem renderList_eq (environment : String) (items : List Fragment) :
    renderList environment items =
      { Fragment.concat items with text := environmentLines environment (items.map (·.text)) } := by
  have hconcat : Fragment.concat (.ofText (Tex.opening environment) :: items ++
      [.ofText (Tex.closing environment)]) =
        { Fragment.concat items with
          text := Tex.opening environment ++ (Fragment.concat items).text ++
            Tex.closing environment } := by
    rw [Fragment.concat_append, Fragment.concat_cons, Fragment.concat_cons, Fragment.concat_nil,
      Fragment.append_empty, Fragment.append_ofText, Fragment.ofText_append]
  rw [renderList, Fragment.lines, hconcat, environmentLines]
  simp [Fragment.ofText]

/-- A list needs what its items need. -/
theorem features_renderList (environment : String) (items : List Fragment) :
    (renderList environment items).features = Features.unionAll (items.map (·.features)) := by
  rw [renderList_eq, Fragment.features_concat]

/-- A quotation needs what its blocks need. -/
theorem features_renderQuote (blocks : List Fragment) :
    (renderQuote blocks).features = Features.unionAll (blocks.map (·.features)) :=
  Fragment.features_joinWith ['\n', '\n'] blocks

/-- An item needs what its blocks need. -/
theorem features_renderItem (blocks : List Fragment) :
    (renderItem blocks).features = Features.unionAll (blocks.map (·.features)) :=
  Fragment.features_joinWith ['\n'] blocks

/-! ## The forms of blocks -/

section

variable (options : Table.Options)

variable {t : Token} (rest : List Token)

/-- A heading takes its own inline token and the token that closes it. -/
theorem renderBlock_heading (h : t.kind = "heading_open") :
    renderBlock options t rest =
      (renderHeading t.tag (renderNextInline rest), lengthOf t rest + 1) := by
  rw [renderBlock, if_pos h]

/-- A paragraph is its running text. -/
theorem renderBlock_paragraph (h : t.kind = "paragraph_open") :
    renderBlock options t rest = (renderNextInline rest, lengthOf t rest + 1) := by
  rw [renderBlock]
  simp [h]

/-- A list takes the tokens up to the one that closes it, and has their items. -/
theorem renderBlock_list (h : t.kind = "bullet_list_open" ∨ t.kind = "ordered_list_open") :
    renderBlock options t rest =
      (renderList (listEnvironment t.kind) (renderItems options (lengthOf t rest) rest),
        lengthOf t rest + 1) := by
  rw [renderBlock]
  rcases h with h | h <;> simp [h]

/-- A quote takes the tokens up to the one that closes it, and has their blocks. -/
theorem renderBlock_quote (h : t.kind = "blockquote_open") :
    renderBlock options t rest =
      (renderQuote (renderBlocks options (lengthOf t rest) rest), lengthOf t rest + 1) := by
  rw [renderBlock]
  simp [h]

/-- A code block is a token by itself, fenced or not. -/
theorem renderBlock_listing (h : t.kind = "fence" ∨ t.kind = "code_block") :
    renderBlock options t rest = (renderListing t, 0) := by
  rw [renderBlock]
  rcases h with h | h <;> simp [h]

/-- A rule is a token by itself. -/
theorem renderBlock_rule (h : t.kind = "hr") :
    renderBlock options t rest = (.ofText "\\hrule".toList, 0) := by
  rw [renderBlock]
  simp [h]

/-- A table takes the tokens up to the one that closes it. -/
theorem renderBlock_table (h : t.kind = "table_open") :
    renderBlock options t rest =
      (renderTable options (rest.take (lengthOf t rest)), lengthOf t rest + 1) := by
  rw [renderBlock]
  simp [h]

/-- Raw markup is passed over. -/
theorem renderBlock_markup (h : t.kind = "html_block") :
    renderBlock options t rest = (.ofNotice (passedOver "html_block"), 0) := by
  have hclosing : t.isClosing = false := by
    rw [Token.isClosing, h]
    rfl
  rw [renderBlock]
  simp [h, hclosing]

/-- An item takes the tokens up to the one that closes it, or all that are left of the list, and the
items behind it come after. -/
theorem renderItems_item (count : Nat) (h : t.kind = "list_item_open") :
    renderItems options (count + 1) (t :: rest) =
      renderItem (renderBlocks options (min (lengthOf t rest) count) rest) ::
        renderItems options (count - (lengthOf t rest + 1)) (rest.drop (lengthOf t rest + 1)) := by
  rw [renderItems, if_pos h]

end

end MarkTex.Body
