import MarkTex.Options.Component
import MarkTex.Program.Failure

/-!
# Jobs

A job says what is made of a source, and where it goes. It is read from the settings of a run, whose
options are checked in a fixed order.
-/

namespace MarkTex.Program

/-- What is made of a source, and where it goes. -/
structure Job where
  document : Document.Options
  table : Table.Options
  markdown : Markdown.Options
  engine : Engine.Options
  /-- Whether the body is left without a document around it. -/
  bodyOnly : Bool
  forExport : Bool
  /-- Where the document goes. -/
  output : Value
  /-- Where the printable file goes. -/
  pdf : Value
  /-- Whether counts are shown. -/
  stats : Bool
  /-- Whether counts are boxed where that can be done. -/
  rich : Bool

/-- The options of a class whose fields are settings, by the names of both. -/
def optionsOf (α : Type) [OptionSet α] (settings : Fields) (names : List (String × String)) :
    Except Failure α :=
  (OptionSet.ofChanges (names.map fun (field, setting) => (field, settings.get setting))).mapError
    .options

/-- The job that settings ask for. -/
def Job.ofSettings (settings : Fields) : Except Failure Job := do
  let holds (name : String) : Bool := (settings.get name).truthy
  if holds "pdf" && holds "body_only" then .error .bodyAsPdf
  let document ← optionsOf Document.Options settings
    [("document_class", "document_class"), ("font_size", "font_size"), ("page_size", "page_size"),
      ("enable_chinese", "chinese"), ("enable_toc", "toc"), ("margin", "margin")]
  let table ← optionsOf Table.Options settings
    [("table_style", "table_style"), ("auto_wrap_threshold", "wrap_threshold")]
  let markdown ← optionsOf Markdown.Options settings [("breaks", "breaks")]
  let engine ← optionsOf Engine.Options settings
    [("engine", "engine"), ("passes", "passes"), ("timeout", "compile_timeout")]
  return {
    document, table, markdown, engine
    bodyOnly := holds "body_only"
    forExport := holds "export"
    output := settings.get "output"
    pdf := settings.get "pdf"
    stats := holds "stats"
    rich := holds "rich" }

namespace Job

/-- Whether the document goes to the output stream. -/
def printsDocument (job : Job) : Bool :=
  !job.output.truthy && !job.pdf.truthy

/-- What a job makes of a source, and the messages that come up: the body alone, or the document
around it. Its tokens are emitted by `emit`. -/
def make (job : Job) (emit : Table.Options → Conversion.Emitter) (source : Text) :
    List Log.Record × Except Conversion.Failure Text :=
  let outcome :=
    Conversion.render (emit job.table) job.markdown (Value.str (String.ofList source))
  match outcome.body with
  | .error failure => (outcome.notices, .error failure)
  | .ok body =>
    if job.bodyOnly then (outcome.notices, .ok body.text)
    else
      let (text, notices) := Conversion.document job.document job.forExport body
      (outcome.notices ++ notices, .ok text)

end Job

end MarkTex.Program
