import MarkTex.Options.Basic

/-!
# Markdown options

The fields of the options for reading Markdown: whether a single line feed breaks the line, and
whether raw markup is recognised. They may hold any value, of which only its truth counts.
-/

namespace MarkTex.Markdown

/-- How Markdown is read. -/
structure Options where
  breaks : Value := .bool true
  html : Value := .bool false

instance : Inhabited Options := ⟨{}⟩

instance : OptionSet Options where
  className := "MarkdownParserOptions"
  fields o := [("breaks", o.breaks), ("html", o.html)]
  ofFields fields := .ok ⟨fields.get "breaks", fields.get "html"⟩

end MarkTex.Markdown
