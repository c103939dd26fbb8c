import MarkTex.Proofs.Body.Cells
import MarkTex.Proofs.Body.Phrase
import MarkTex.Proofs.Math.Segment

/-!
# What a body is made of

The constructs of a body are those parts of it that some package has to provide, or that stand in it
just as they were written: links, struck-out texts, images, listings, tables, formulas and
ideographs. They are read off the outline of the body and the phrases of its running texts.
-/

namespace MarkTex.Body

open Markdown (Token)

/-- Something that is emitted and that some package has to provide. -/
inductive Construct where
  | link
  | strikethrough
  | image (source : Text)
  | listing (code : Text)
  /-- A table that has rows. -/
  | table (environment : Table.Environment) (style : Table.Style)
  /-- A formula, kept as it is. -/
  | formula (span : Text)
  | ideograph
  deriving DecidableEq, Repr

namespace Construct

/-- The text that is emitted just as it was written. -/
def verbatim? : Construct → Option Text
  | image source => some source
  | listing code => some code
  | formula span => some span
  | _ => none

/-- The packages that a construct cannot do without. -/
def packages : Construct → List String
  | link => ["hyperref"]
  | strikethrough => ["ulem"]
  | image _ => ["graphicx"]
  | listing _ => ["listings", "xcolor"]
  | table environment style =>
    ["array"] ++
      (match environment with
      | .tabular => []
      | .tabularx => ["tabularx"]
      | .longtable => ["longtable"]) ++
      if style = .booktabs then ["booktabs"] else []
  | formula _ => ["amsmath", "amssymb"]
  | ideograph => ["fontspec", "xeCJK"]

end Construct

/-! ## Running text -/

/-- The ideographs of a text, told once. -/
def ideographsIn (t : Text) : List Construct :=
  if Text.hasIdeograph t then [.ideograph] else []

/-- What a source text is emitted as, besides plain characters. -/
def constructsOfText (source : Text) : List Construct :=
  (Text.formulas source).map .formula ++ ideographsIn source

/-- What a leaf is emitted as. -/
def constructsOfLeaf (child : Token) : List Construct :=
  if child.kind = "code_inline" then ideographsIn child.content
  else if child.kind = "image" then [.image (child.attrText "src")]
  else if child.kind = "html_inline" || child.kind = "html_block" then []
  else constructsOfText child.content

/-- What a marker that was closed puts around the phrases inside. -/
def constructsOfMarker (opener : Token) : List Construct :=
  if opener.kind = "strong_open" || opener.kind = "em_open" then []
  else if opener.kind = "s_open" then [.strikethrough]
  else [.link]

mutual

/-- The constructs of a phrase. -/
def Phrase.constructs : Phrase → List Construct
  | .run children => constructsOfText (runSource children)
  | .leaf child => constructsOfLeaf child
  | .marked opener _ inner => constructsOfMarker opener ++ constructsOfPhrases inner
  | .unclosed _ => []
  | .unmatched _ => []

/-- The constructs of phrases. -/
def constructsOfPhrases : List Phrase → List Construct
  | [] => []
  | phrase :: phrases => phrase.constructs ++ constructsOfPhrases phrases

end

/-- The constructs of a running text. -/
def constructsOfInlines (children : List Token) : List Construct :=
  constructsOfPhrases (arrange children)

/-! ## Blocks -/

/-- The constructs of a listing. -/
def constructsOfListing (t : Token) : List Construct :=
  .listing t.content :: ideographsIn t.content

section

variable (options : Table.Options)

/-- The constructs of a table: the table itself unless it has no rows, and what is in its cells. -/
def constructsOfTable (tokens : List Token) : List Construct :=
  let rows := rowsFrom [] tokens
  let cells := (collectCells tokens).1
  match Table.layout options cells.rows cells.plainRows cells.alignments with
  | .ok table =>
    (if rows.isEmpty then [] else [.table table.environment options.style]) ++
      rows.flatten.flatMap constructsOfInlines
  | .error _ => []

mutual

/-- The constructs of a part. -/
def Part.constructs : Part → List Construct
  | .heading _ text => constructsOfInlines text
  | .unreadable _ => []
  | .paragraph text => constructsOfInlines text
  | .list _ items => constructsOfItems items
  | .quote parts => constructsOfParts parts
  | .listing t => constructsOfListing t
  | .rule => []
  | .table tokens => constructsOfTable options tokens
  | .passed _ => []

/-- The constructs of parts. -/
def constructsOfParts : List Part → List Construct
  | [] => []
  | part :: parts => part.constructs ++ constructsOfParts parts

/-- The constructs of items. -/
def constructsOfItems : List (List Part) → List Construct
  | [] => []
  | parts :: items => constructsOfParts parts ++ constructsOfItems items

end

/-- The constructs of the body of a list of tokens. -/
def constructs (tokens : List Token) : List Construct :=
  constructsOfParts options (outline tokens)

end

/-! ## A body that is not balanced -/

/-- A formula, and an image that is struck out once and closed twice. -/
def struckImage : List Token :=
  [{ kind := "text", content := "$x$".toList },
    { kind := "s_open" },
    { kind := "image", attributes := [("src", .text "a.png".toList)] },
    { kind := "s_close" },
    { kind := "s_close" }]

/-- A listing in front of a paragraph that nothing closes. -/
def openParagraph : List Token :=
  [{ kind := "fence", content := "f {}".toList },
    { kind := "paragraph_open" },
    { kind := "inline", children := some struckImage }]

/-- The constructs of a paragraph that is not closed behind a code block: an image inside of a
marker, a formula, and a marker that closes nothing. -/
theorem constructs_openParagraph :
    constructs {} openParagraph =
      [.listing "f {}".toList, .formula "$x$".toList, .strikethrough, .image "a.png".toList] := by
  have houtline : outline openParagraph =
      [.listing { kind := "fence", content := "f {}".toList }, .paragraph struckImage] := by
    simp [outline, openParagraph, outlineBlocks, outlineBlock, nextInlines, Token.inlines]
  let image : Token := { kind := "image", attributes := [("src", .text "a.png".toList)] }
  -- the last marker closes nothing, and leaves no construct
  have hphrases : arrange struckImage =
      [.run [{ kind := "text", content := "$x$".toList }],
        .marked { kind := "s_open" } { kind := "s_close" } [.leaf image],
        .unmatched { kind := "s_close" }] := by
    simp [arrange, arrangeFrom, struckImage, isRunKind, closerOf?, isCloser, closeRun, leaveOpen,
      image]
  have hformula : Text.formulas "$x$".toList = ["$x$".toList] := by
    have hmath : Text.math? "$x$".toList = some ("$x$".toList, []) := by decide
    rw [Text.formulas_of_math? hmath, Text.formulas_nil]
  have hrun : constructsOfText (runSource [{ kind := "text", content := "$x$".toList }]) =
      [.formula "$x$".toList] := by
    have hsource : runSource [{ kind := "text", content := "$x$".toList }] = "$x$".toList := by
      decide
    rw [hsource, constructsOfText, hformula]
    decide
  have himage : constructsOfLeaf image = [.image "a.png".toList] := by decide
  have hmarker : constructsOfMarker { kind := "s_open" } = [.strikethrough] := by decide
  have hlisting : constructsOfListing { kind := "fence", content := "f {}".toList } =
      [.listing "f {}".toList] := by
    decide
  rw [constructs, houtline]
  simp only [constructsOfParts, Part.constructs, constructsOfInlines, hphrases,
    constructsOfPhrases, Phrase.constructs, hrun, himage, hmarker, hlisting]
  rfl

end MarkTex.Body
