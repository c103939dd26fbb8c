import MarkTex.Body.Block
import MarkTex.Document
import MarkTex.Markdown.Tokenize
import MarkTex.WordCount

/-!
# Conversion

A source becomes a body in two stages: it is read into tokens, and the tokens are emitted. A failure
of either stage tells the stage and its cause. A body becomes a document with a preamble around it.
-/

namespace MarkTex.Conversion

open Markdown (Token)

/-- The logger of messages about conversions. -/
def logger : String := "md2latex.api"

/-- What made a stage fail: the kind of fault, and what is wrong. -/
structure Cause where
  kind : String
  message : String
  deriving DecidableEq, Repr

/-- A cause as messages show it. -/
def Cause.shown (c : Cause) : String :=
  c.kind ++ "(" ++ quote c.message ++ ")"

/-- Why a source has no body. -/
inductive Failure where
  /-- The source could not be read. -/
  | tokenizing (cause : Cause)
  /-- The tokens could not be emitted. -/
  | rendering (cause : Cause)
  deriving DecidableEq, Repr

/-- What went wrong in a conversion. -/
def Failure.message : Failure → String
  | tokenizing cause => "Failed to tokenize Markdown: " ++ cause.shown
  | rendering cause => "Failed to render LaTeX: " ++ cause.shown

/-- The stage that failed. -/
def Failure.stage : Failure → String
  | tokenizing _ => "tokenizing"
  | rendering _ => "rendering"

/-! ## Emitting -/

/-- The kind of a fault in the tokens of a body. -/
def faultKind : Body.Fault → String
  | .headingLevel _ => "ValueError"
  | .tableColumns (.noSuchColumn _) => "IndexError"
  | .tableColumns .noQuotient => "OverflowError"

/-- A way to emit tokens. -/
abbrev Emitter := List Token → Except Cause Body.Fragment

/-- The emitter with the given options for tables. -/
def emitter (options : Table.Options) : Emitter := fun tokens =>
  let body := Body.render options tokens
  match body.fault with
  | none => .ok body
  | some fault => .error ⟨faultKind fault, fault.message⟩

/-! ## Sources -/

/-- The text of a source: what counts as no is the empty text, and anything else but a text cannot
be read. -/
def sourceText (source : Value) : Except Cause Text :=
  match source with
  | .str s => .ok s.toList
  | v =>
    if v.truthy then
      .error ⟨"TypeError", s!"Input data should be a string, not <class '{v.typeName}'>"⟩
    else .ok []

/-- A conversion that was tried: the messages that came up, and the body. -/
structure Outcome where
  notices : List Log.Record
  body : Except Failure Body.Fragment

/-- The message about a source that was read. -/
def readNotice (source : Text) (tokens : List Token) : Log.Record where
  logger := logger
  level := Log.debug
  message := s!"Tokenized {source.length} characters into {tokens.length} tokens"

/-- The messages about the trials that are made when a source is read. -/
def trialNotices (options : Markdown.Options) (source : Text) : List Log.Record :=
  (Markdown.trials options source).map (·.record)

/-- The body of a source. -/
def render (emit : Emitter) (options : Markdown.Options) (source : Value) : Outcome :=
  match sourceText source with
  | .error cause => ⟨[], .error (.tokenizing cause)⟩
  | .ok text =>
    let tokens := Markdown.tokenize options text
    let notices := trialNotices options text ++ [readNotice text tokens]
    match emit tokens with
    | .error cause => ⟨notices, .error (.rendering cause)⟩
    | .ok body => ⟨notices ++ body.notices, .ok body⟩

/-- The document around a body, and the messages that come up. -/
def document (options : Document.Options) (forExport : Bool) (body : Body.Fragment) :
    Text × List Log.Record :=
  (Document.assemble options body.features body.text forExport,
    Document.notices options body.features forExport)

/-- The whole document of a source. -/
def toDocument (emit : Emitter) (markdown : Markdown.Options) (options : Document.Options)
    (forExport : Bool) (source : Value) : List Log.Record × Except Failure Text :=
  let outcome := render emit markdown source
  match outcome.body with
  | .error failure => (outcome.notices, .error failure)
  | .ok body =>
    let (text, notices) := document options forExport body
    (outcome.notices ++ notices, .ok text)

/-! ## Counting -/

/-- The counts of a source; one of white space only is not read. -/
def count (options : Markdown.Options) (source : Text) : WordCount.Counts :=
  if source.all Text.isBlank then {} else WordCount.count (Markdown.tokenize options source)

/-- The counts of a source that may be no text: what counts as no has none, and anything else but a
text cannot be counted. -/
def countSource (options : Markdown.Options) (source : Value) : Except Cause WordCount.Counts :=
  match source with
  | .str s => .ok (count options s.toList)
  | v =>
    if v.truthy then
      .error ⟨"AttributeError", s!"'{v.typeName}' object has no attribute 'strip'"⟩
    else .ok {}

/-- The messages that come up when a source is counted. -/
def countNotices (options : Markdown.Options) (source : Text) : List Log.Record :=
  if source.all Text.isBlank then [] else trialNotices options source

end MarkTex.Conversion
