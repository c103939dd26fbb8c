import MarkTex.Markdown.Token
import MarkTex.Table.Basic

/-!
# Block trees

A document is a list of blocks, some of which hold blocks again. The list of tokens of a document is
its trees laid flat: each block with contents is its opening token, the tokens of its contents and
its closing token. Running text stands for itself until it is laid flat, so trees are over any type
of it.
-/

namespace MarkTex.Markdown

mutual

/-- A block with running text of type `α`. -/
inductive Block (α : Type) where
  | heading (level : Nat) (text : α)
  | paragraph (text : α)
  /-- A list; one in order has a number to start with. -/
  | list (start : Option Nat) (items : List (Item α))
  | quote (blocks : List (Block α))
  | fence (info code : Text)
  | code (text : Text)
  | rule
  | markup (text : Text)
  /-- A table: the alignments of its columns, its header row and its other rows. -/
  | table (alignments : List (Option Table.Alignment)) (header : List α) (rows : List (List α))

/-- An item of a list, with the number that stands in front of it if the list is in order. -/
inductive Item (α : Type) where
  | mk (number : Text) (blocks : List (Block α))

end

/-! ## Laying trees flat -/

/-- The token that stands for a running text with the given children. -/
def inlineToken (content : Text) (children : List Token) : Token where
  kind := "inline"
  content := content
  children := some children

/-- A token with its tag. -/
def tagToken (kind tag : String) : Token where
  kind := kind
  tag := tag

/-- Tokens between an opening and a closing one. -/
def enclose (opener : Token) (inner : List Token) (close : Token) : List Token :=
  opener :: inner ++ [close]

/-- The attribute that aligns a cell. -/
def alignmentAttributes : Option Table.Alignment → List (String × Attribute)
  | some alignment => [("style", .text ("text-align:" ++ alignment.name).toList)]
  | none => []

section

variable {α : Type} (inline : α → Token)

/-- The tokens of a cell. -/
def flattenCell (tag : String) (alignment : Option Table.Alignment) (text : α) : List Token :=
  enclose { kind := tag ++ "_open", tag, attributes := alignmentAttributes alignment }
    [inline text] (tagToken (tag ++ "_close") tag)

/-- The tokens of the cells of a row. A cell without an alignment of its own has none. -/
def flattenCells (tag : String) : List (Option Table.Alignment) → List α → List Token
  | _, [] => []
  | [], text :: texts => flattenCell inline tag none text ++ flattenCells tag [] texts
  | alignment :: alignments, text :: texts =>
    flattenCell inline tag alignment text ++ flattenCells tag alignments texts

/-- The tokens of a row. -/
def flattenRow (tag : String) (alignments : List (Option Table.Alignment)) (row : List α) :
    List Token :=
  enclose (tagToken "tr_open" "tr") (flattenCells inline tag alignments row)
    (tagToken "tr_close" "tr")

/-- The tokens of the rows below the header, of which there may be none. -/
def flattenRows (alignments : List (Option Table.Alignment)) (rows : List (List α)) : List Token :=
  if rows.isEmpty then []
  else
    enclose (tagToken "tbody_open" "tbody") (rows.flatMap (flattenRow inline "td" alignments))
      (tagToken "tbody_close" "tbody")

/-- The tokens of a table. -/
def flattenTable (alignments : List (Option Table.Alignment)) (header : List α)
    (rows : List (List α)) : List Token :=
  enclose (tagToken "table_open" "table")
    (enclose (tagToken "thead_open" "thead") (flattenRow inline "th" alignments header)
      (tagToken "thead_close" "thead") ++ flattenRows inline alignments rows)
    (tagToken "table_close" "table")

/-- The opening token of a list. -/
def listOpener : Option Nat → Token
  | none => tagToken "bullet_list_open" "ul"
  | some start =>
    { tagToken "ordered_list_open" "ol" with
      attributes := if start = 1 then [] else [("start", .number start)] }

/-- The closing token of a list. -/
def listCloser : Option Nat → Token
  | none => tagToken "bullet_list_close" "ul"
  | some _ => tagToken "ordered_list_close" "ol"

mutual

/-- The tokens of a block. -/
def Block.flatten : Block α → List Token
  | .heading level text =>
    let tag := "h" ++ toString level
    enclose (tagToken "heading_open" tag) [inline text] (tagToken "heading_close" tag)
  | .paragraph text =>
    enclose (tagToken "paragraph_open" "p") [inline text] (tagToken "paragraph_close" "p")
  | .list start items => enclose (listOpener start) (flattenItems items) (listCloser start)
  | .quote blocks =>
    enclose (tagToken "blockquote_open" "blockquote") (flattenBlocks blocks)
      (tagToken "blockquote_close" "blockquote")
  | .fence info code => [{ kind := "fence", tag := "code", info, content := code }]
  | .code text => [{ kind := "code_block", tag := "code", content := text }]
  | .rule => [tagToken "hr" "hr"]
  | .markup text => [{ kind := "html_block", content := text }]
  | .table alignments header rows => flattenTable inline alignments header rows

/-- The tokens of an item. -/
def Item.flatten : Item α → List Token
  | .mk number blocks =>
    enclose { tagToken "list_item_open" "li" with info := number } (flattenBlocks blocks)
      (tagToken "list_item_close" "li")

/-- The tokens of a list of blocks. -/
def flattenBlocks : List (Block α) → List Token
  | [] => []
  | block :: blocks => block.flatten ++ flattenBlocks blocks

/-- The tokens of the items of a list. -/
def flattenItems : List (Item α) → List Token
  | [] => []
  | item :: items => item.flatten ++ flattenItems items

end

end

end MarkTex.Markdown
