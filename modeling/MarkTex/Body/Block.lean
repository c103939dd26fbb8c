import MarkTex.Body.Cells
import MarkTex.Table.Layout
import MarkTex.Tex.Language

/-!
# Blocks

A body is emitted block by block. Each block takes the tokens up to the one that closes it, whatever
stands around it, and yields one fragment; blocks without text leave no trace in their surroundings
but what they need. Tokens of other kinds are passed over, so that what they enclose is still
emitted.

Blocks may stand inside of one another to any depth. How deep a stack of calls can get depends on
what has called the emitter, and is not modelled here: a body that is nested too deeply for a stack
is emitted all the same.
-/

namespace MarkTex.Body

open Markdown (Token)

/-! ## Blocks without contents of their own -/

/-- The sectioning commands, from the highest level to the lowest. -/
def headingCommands : List String :=
  ["section", "subsection", "subsubsection", "paragraph", "subparagraph"]

/-- The level in the tag of a heading; a tag of another form means the highest level. -/
def headingLevel (tag : String) : Except Number.NumeralFault Int :=
  match tag.toList with
  | h :: level =>
    if (h = 'h' || h = 'H') && !level.isEmpty && level.all Text.isDigit then Number.readInt level
    else .ok 1
  | [] => .ok 1

/-- The sectioning command of a level; levels beyond the lowest share its command. -/
def headingCommand (level : Int) : String :=
  headingCommands.getD (min (level.toNat - 1) 4) "subparagraph"

/-- A heading with the running text `inner`. -/
def renderHeading (tag : String) (inner : Fragment) : Fragment :=
  match headingLevel tag with
  | .ok level => inner.mapText (Tex.command (headingCommand level))
  | .error cause => { fault := some (.headingLevel cause) }

/-- The code of a listing, ended by a line feed if there is any. -/
def listingBody (code : Text) : Text :=
  if code.isEmpty || Text.endsWith code ['\n'] then code else code ++ ['\n']

/-- The language that the first word after a fence names, and the warning that this brings. -/
def listingLanguage (info : Text) : Text × List Log.Record :=
  match Text.words info with
  | word :: _ => Tex.language word
  | [] => ([], [])

/-- A code block. -/
def renderListing (t : Token) : Fragment :=
  let code := listingBody t.content
  let (language, notices) := listingLanguage t.info
  let header :=
    if language.isEmpty then Tex.opening "lstlisting"
    else Tex.opening "lstlisting" ++ "[language=".toList ++ language ++ [']']
  { text := header ++ '\n' :: code ++ Tex.closing "lstlisting"
    features :=
      { packages := { listings := true, xcolor := true }
        code := true
        chinese := Text.hasIdeograph code }
    notices := notices }

/-- The table whose tokens are given. -/
def renderTable (options : Table.Options) (tokens : List Token) : Fragment :=
  let (cells, needs) := collectCells tokens
  let needs := .needing { tables := true } [] ++ needs
  match Table.layout options cells.rows cells.plainRows cells.alignments with
  | .ok table =>
    needs ++
      { text := table.code
        features := { packages := Packages.ofNames table.packages }
        notices := table.notices }
  | .error cause => needs ++ { fault := some (.tableColumns cause) }

/-! ## Blocks that hold blocks -/

/-- The environment of a list. -/
def listEnvironment (kind : String) : String :=
  if kind = "ordered_list_open" then "enumerate" else "itemize"

/-- An item with the given blocks. -/
def renderItem (blocks : List Fragment) : Fragment :=
  (Fragment.joinWith ['\n'] blocks).mapText fun body =>
    if body.isEmpty then "\\item".toList else "\\item ".toList ++ body

/-- A list of the given items. -/
def renderList (environment : String) (items : List Fragment) : Fragment :=
  .lines (.ofText (Tex.opening environment) :: items ++ [.ofText (Tex.closing environment)])

/-- A quotation of the given blocks. -/
def renderQuote (blocks : List Fragment) : Fragment :=
  (Fragment.joinWith ['\n', '\n'] blocks).mapText fun body =>
    List.intercalate ['\n'] (Tex.opening "quote" :: (if body.isEmpty then [] else [body]) ++
      [Tex.closing "quote"])

/-- The message about a token that has no form of its own. -/
def passedOver (kind : String) : Log.Record where
  logger := emitterLogger
  level := Log.debug
  message := "No LaTeX rendering for token type " ++ quote kind

mutual

/-- Emits the blocks that start among the first `count` of the tokens; the last of them may reach
beyond. -/
def renderBlocks (options : Table.Options) (count : Nat) : List Token → List Fragment
  | [] => []
  | t :: rest =>
    match count with
    | 0 => []
    | count + 1 =>
      let (fragment, taken) := renderBlock options t rest
      fragment :: renderBlocks options (count - taken) (rest.drop taken)
termination_by tokens => (tokens.length, 1)
decreasing_by
  · simp_wf; exact Prod.Lex.right _ Nat.zero_lt_one
  · simp_wf; exact Prod.Lex.left _ _ (by omega)

/-- Emits the block that `t` starts, and counts the tokens that it takes of those that follow. -/
def renderBlock (options : Table.Options) (t : Token) (rest : List Token) : Fragment × Nat :=
  if t.kind = "heading_open" then
    (renderHeading t.tag (renderNextInline rest), Markdown.lengthOf t rest + 1)
  else if t.kind = "paragraph_open" then (renderNextInline rest, Markdown.lengthOf t rest + 1)
  else if t.kind = "bullet_list_open" || t.kind = "ordered_list_open" then
    let length := Markdown.lengthOf t rest
    (renderList (listEnvironment t.kind) (renderItems options length rest), length + 1)
  else if t.kind = "blockquote_open" then
    let length := Markdown.lengthOf t rest
    (renderQuote (renderBlocks options length rest), length + 1)
  else if t.kind = "fence" || t.kind = "code_block" then (renderListing t, 0)
  else if t.kind = "hr" then (.ofText "\\hrule".toList, 0)
  else if t.kind = "table_open" then
    let length := Markdown.lengthOf t rest
    (renderTable options (rest.take length), length + 1)
  else if t.isClosing then ({}, 0)
  else (.ofNotice (passedOver t.kind), 0)
termination_by (rest.length + 1, 0)
decreasing_by all_goals exact Prod.Lex.left _ _ (by omega)

/-- Emits the items that start among the first `count` of the tokens. Whatever stands between the
items is left out. -/
def renderItems (options : Table.Options) (count : Nat) : List Token → List Fragment
  | [] => []
  | t :: rest =>
    match count with
    | 0 => []
    | count + 1 =>
      if t.kind = "list_item_open" then
        let length := Markdown.lengthOf t rest
        renderItem (renderBlocks options (min length count) rest) ::
          renderItems options (count - (length + 1)) (rest.drop (length + 1))
      else renderItems options count rest
termination_by tokens => (tokens.length, 1)
decreasing_by all_goals (simp_wf; exact Prod.Lex.left _ _ (by omega))

end

/-- The body of a list of tokens. -/
def render (options : Table.Options) (tokens : List Token) : Fragment :=
  Fragment.joinWith ['\n', '\n'] (renderBlocks options tokens.length tokens)

/-- Emits the block that starts at `index`, and finds the position after it. -/
def renderBlockAt (options : Table.Options) (tokens : List Token) (index : Nat) : Fragment × Nat :=
  match tokens.drop index with
  | [] => ({}, index)
  | t :: rest =>
    let (fragment, taken) := renderBlock options t rest
    (fragment, index + 1 + taken)

end MarkTex.Body
