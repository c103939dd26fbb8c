import MarkTex.Markdown.Blocks
import MarkTex.Markdown.Inline
import MarkTex.Markdown.Trace
import MarkTex.Options.Markdown

/-!
# Tokens of a document

A source text is read into block trees first and its running texts after that, since a link may
stand in front of the definition that it names. With line breaks kept, every soft break outside
images is a hard one.
-/

namespace MarkTex.Markdown

/-- The source with one kind of line end, and without the character U+0000. -/
def normalSource (source : Text) : Text :=
  (Text.unifyLineEnds source).map fun c => if c = '\x00' then '\uFFFD' else c

/-- The block trees of a source text, and the definitions in it. -/
def readDocument (markup : Bool) (source : Text) : List (Block Text) × Definitions :=
  let reading := readBlocks deepestNesting { markup } (sourceLines (normalSource source))
  (reading.blocks, reading.definitions)

/-- A soft break as a hard one. -/
def Token.hardened (t : Token) : Token :=
  if t.kind = "softbreak" then { t with kind := "hardbreak", tag := "br" } else t

/-- A token with the soft breaks among its children as hard ones. -/
def Token.hardenBreaks (t : Token) : Token :=
  { t with children := t.children.map (·.map Token.hardened) }

/-- The tokens of a source text, with soft breaks as they are. -/
def tokenizeSoft (markup : Bool) (source : Text) : List Token :=
  let (blocks, definitions) := readDocument markup source
  let context : Context := { definitions, markup }
  flattenBlocks (fun text => inlineToken text (tokenizeInline context text)) blocks

/-- The tokens of a source text. -/
def tokenize (options : Options) (source : Text) : List Token :=
  let tokens := tokenizeSoft options.html.truthy source
  if options.breaks.truthy then tokens.map Token.hardenBreaks else tokens

/-- The trials that are made when a source text is read. -/
def trials (options : Options) (source : Text) : List Trial :=
  let lines := sourceLines (normalSource source)
  blocksTrials deepestNesting { markup := options.html.truthy } { limit := lines.length } lines

end MarkTex.Markdown
