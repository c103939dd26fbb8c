import MarkTex.Options.Basic

/-!
# Document options

The fields of the options for whole documents: the class and its options, what to put in besides the
body, the margin, and the fonts for ideographs.
-/

namespace MarkTex.Document

/-- The class of a document. -/
inductive DocumentClass where
  | article
  | report
  | book
  deriving DecidableEq, Repr

/-- The name of a document class. -/
def DocumentClass.name : DocumentClass → String
  | article => "article"
  | report => "report"
  | book => "book"

/-- The size of the running text. -/
inductive FontSize where
  | pt10
  | pt11
  | pt12
  deriving DecidableEq, Repr

/-- The name of a font size. -/
def FontSize.name : FontSize → String
  | pt10 => "10pt"
  | pt11 => "11pt"
  | pt12 => "12pt"

/-- The size of a page. -/
inductive PageSize where
  | a4
  | letter
  | a5
  deriving DecidableEq, Repr

/-- The name of a page size. -/
def PageSize.name : PageSize → String
  | a4 => "a4paper"
  | letter => "letterpaper"
  | a5 => "a5paper"

/-- The options for a whole document. The switches for fonts and contents may hold any value, of
which only its truth counts. -/
structure Options where
  documentClass : DocumentClass := .article
  fontSize : FontSize := .pt11
  pageSize : PageSize := .a4
  enableChinese : Value := .bool false
  enableToc : Value := .bool false
  margin : Filled := ⟨"2.5cm", by decide⟩
  fontName : Filled := ⟨"Noto Sans CJK SC", by decide⟩
  fontFile : Filled := ⟨"NotoSansCJKsc-Regular.otf", by decide⟩
  fontPath : Filled := ⟨"/fonts/", by decide⟩

instance : Inhabited Options := ⟨{}⟩

/-- The fields of document options, in the order in which they are checked. -/
def Options.toFields (o : Options) : Fields :=
  [("document_class", .str o.documentClass.name),
    ("font_size", .str o.fontSize.name),
    ("page_size", .str o.pageSize.name),
    ("enable_chinese", o.enableChinese),
    ("enable_toc", o.enableToc),
    ("margin", .str o.margin),
    ("cjk_font_name", .str o.fontName),
    ("cjk_font_file", .str o.fontFile),
    ("cjk_font_path", .str o.fontPath)]

/-- The document options with the given fields. -/
def Options.ofFields (fields : Fields) : Except OptionFault Options := do
  let documentClass ← readChoice "document_class" [.article, .report, .book] DocumentClass.name
    (fields.get "document_class")
  let fontSize ← readChoice "font_size" [.pt10, .pt11, .pt12] FontSize.name (fields.get "font_size")
  let pageSize ← readChoice "page_size" [.a4, .letter, .a5] PageSize.name (fields.get "page_size")
  let margin ← readFilled "margin" (fields.get "margin")
  let fontName ← readFilled "cjk_font_name" (fields.get "cjk_font_name")
  let fontFile ← readFilled "cjk_font_file" (fields.get "cjk_font_file")
  let fontPath ← readFilled "cjk_font_path" (fields.get "cjk_font_path")
  return {
    documentClass, fontSize, pageSize, margin, fontName, fontFile, fontPath
    enableChinese := fields.get "enable_chinese"
    enableToc := fields.get "enable_toc" }

instance : OptionSet Options where
  className := "DocumentOptions"
  fields := Options.toFields
  ofFields := Options.ofFields

end MarkTex.Document
