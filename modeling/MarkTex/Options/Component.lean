import MarkTex.Options.Document
import MarkTex.Options.Engine
import MarkTex.Options.Markdown
import MarkTex.Options.Table

/-!
# Options of components

Each component takes options of one class and refuses those of any other.
-/

namespace MarkTex

/-- A part of the program that takes options. -/
inductive Component where
  | tableLayout
  | emitter
  | tokenizer
  | compiler
  | assembler
  deriving DecidableEq, Repr

namespace Component

/-- The name under which a component takes options. The emitter hands its options to the table
layout. -/
def name : Component → String
  | tableLayout => "TableLayoutEngine"
  | emitter => "TableLayoutEngine"
  | tokenizer => "MarkdownTokenizer"
  | compiler => "LatexCompiler"
  | assembler => "DocumentAssembler"

/-- The class of options that a component takes. -/
def expected : Component → String
  | tableLayout => OptionSet.className Table.Options
  | emitter => OptionSet.className Table.Options
  | tokenizer => OptionSet.className Markdown.Options
  | compiler => OptionSet.className Engine.Options
  | assembler => OptionSet.className Document.Options

/-- Accepts options of the class that the component takes. -/
def accept (component : Component) (given : String) : Except OptionFault Unit :=
  if given = component.expected then .ok ()
  else .error (.wrongClass component.name component.expected given)

end Component

end MarkTex
