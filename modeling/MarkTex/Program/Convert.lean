import MarkTex.Program.Files
import MarkTex.Program.Job
import MarkTex.Report

/-!
# Carrying out jobs

The source of a job is read and converted first; nothing is written before. Then the document is
written, then its printable file, and at last the counts are shown. They go to the stream that the
document does not go to.
-/

namespace MarkTex.Program

/-- A text with its last line ended. -/
def endLine (t : Text) : Text :=
  if t.getLast? = some '\n' then t else t ++ ['\n']

namespace Job

/-- The state after the document was written to its file or printed. A document that is only wanted
as a printable file is not. -/
def writeDocument (job : Job) (c : Context) (document : Text) (s : State) : Except Failure State :=
  if job.output.truthy then s.writeTo c job.output (Text.encode document)
  else .ok (if job.printsDocument then s.print (endLine document) else s)

/-- The state after the document was compiled, and its printable file or why there is none. -/
def compile (job : Job) (c : Context) (s : State) : State × Except Failure Bytes :=
  let engine := c.engine job.engine.engine
  (s.recordAll c (Engine.produceNotices job.engine engine),
    (Engine.produce job.engine engine).mapError
      (.ofRefusal (c.scratch.join job.engine.documentName)))

/-- The state after the printable file was written, if it is wanted. -/
def writePdf (job : Job) (c : Context) (s : State) : State × Except Failure Unit :=
  if !job.pdf.truthy then (s, .ok ())
  else
    match job.compile c s with
    | (s, .error failure) => (s, .error failure)
    | (s, .ok pdf) =>
      match s.writeTo c job.pdf pdf with
      | .error failure => (s, .error failure)
      | .ok s => (s, .ok ())

/-- The report of the counts of a source. The streams of a run are no terminals. -/
def report (job : Job) (source : Text) : Text :=
  let rows := Report.ofCounts (Conversion.count job.markdown source)
  if Report.isBoxed job.rich true .file then Report.boxed rows else Report.plain rows

/-- The state after the counts were shown, if they are wanted. -/
def writeStats (job : Job) (c : Context) (source : Text) (s : State) : State :=
  if !job.stats then s
  else
    let s := s.recordAll c (Conversion.countNotices job.markdown source)
    if job.printsDocument then s.complain (job.report source) else s.print (job.report source)

/-- The state after a document was written, compiled and counted, as far as it is wanted. -/
def publish (job : Job) (c : Context) (source document : Text) (s : State) :
    State × Except Failure Unit :=
  match job.writeDocument c document s with
  | .error failure => (s, .error failure)
  | .ok s =>
    match job.writePdf c s with
    | (s, .error failure) => (s, .error failure)
    | (s, .ok ()) => (job.writeStats c source s, .ok ())

/-- The state after a job was carried out, and why it failed if it did. -/
def run (job : Job) (c : Context) (emit : Table.Options → Conversion.Emitter) (input : Text)
    (s : State) : State × Except Failure Unit :=
  match readSource c s.files input with
  | .error failure => (s, .error failure)
  | .ok source =>
    let (notices, made) := job.make emit source
    let s := s.recordAll c notices
    match made with
    | .error cause => (s, .error (.conversion cause))
    | .ok document => job.publish c source document s

end Job

/-- The state after the job that settings ask for was carried out, and why it failed if it did. -/
def convert (c : Context) (emit : Table.Options → Conversion.Emitter) (settings : Fields)
    (input : Text) (s : State) : State × Except Failure Unit :=
  match Job.ofSettings settings with
  | .error failure => (s, .error failure)
  | .ok job => job.run c emit input s

/-! ## Files without settings -/

/-- The state after the file at a path was converted to a document with the given options, which is
written to the file at `target`, if there is one. -/
def convertFile (c : Context) (emit : Conversion.Emitter) (markdown : Markdown.Options)
    (options : Document.Options) (forExport : Bool) (path : Path) (target : Option Path)
    (s : State) : State × Except Failure Text :=
  match readText c s.files path with
  | .error failure => (s, .error failure)
  | .ok source =>
    let (notices, made) :=
      Conversion.toDocument emit markdown options forExport (.str (String.ofList source))
    let s := s.recordAll c notices
    match made, target with
    | .error cause, _ => (s, .error (.conversion cause))
    | .ok document, none => (s, .ok document)
    | .ok document, some target =>
      match s.writeFile c Conversion.logger target (Text.encode document) with
      | .error failure => (s, .error failure)
      | .ok s => (s, .ok document)

end MarkTex.Program
