import MarkTex.Body.Fragment
import MarkTex.Markdown.Token
import MarkTex.Tex.Markup
import MarkTex.Text.Quoted

/-!
# Running text

The children of an inline token are emitted from left to right. Neighbouring texts and line breaks
form a run, which is searched for formulas as a whole. A marker that opens bold, italic, struck-out
or link text is held until the marker that closes it comes: a closing marker matches only the
innermost open one, and a marker that finds no partner decorates nothing.
-/

namespace MarkTex.Body

open Markdown (Token)

/-- The logger of messages about emitting tokens. -/
def emitterLogger : String := "md2latex.renderers.latex"

/-- What a source text needs: fonts for ideographs, and packages for formulas. -/
def textFeatures (t : Text) : Features where
  chinese := Text.hasIdeograph t
  math := Text.hasMath t

/-! ## Runs of text and line breaks -/

/-- Whether a child is a text or a line break. -/
def isRunKind (kind : String) : Bool :=
  kind = "text" || kind = "softbreak" || kind = "hardbreak"

/-- The source of a run, with a line feed for each break. -/
def runSource (run : List Token) : Text :=
  run.flatMap fun child => if child.kind = "text" then child.content else ['\n']

/-- The breaks of a run, each told hard or soft. -/
def runBreaks (run : List Token) : List Bool :=
  (run.filter fun child => child.kind ≠ "text").map fun child => child.kind = "hardbreak"

/-- A line feed as it is emitted for the next break, and the breaks after that. -/
def emitBreak : List Bool → Text × List Bool
  | true :: breaks => (['\\', '\\', '\n'], breaks)
  | _ :: breaks => (['\n'], breaks)
  | [] => (['\n'], [])

/-- A plain text escaped, with its line feeds emitted as breaks in turn, and the breaks left. -/
def emitPlain : Text → List Bool → Text × List Bool
  | [], breaks => ([], breaks)
  | c :: r, breaks =>
    if c = '\n' then
      let (line, left) := emitBreak breaks
      let (more, left) := emitPlain r left
      (line ++ more, left)
    else
      let (more, left) := emitPlain r breaks
      (Tex.escapeChar c ++ more, left)

/-- Segments as they are emitted: a formula stays as it is and takes up the breaks inside it. -/
def emitSegments : List Segment → List Bool → Text
  | [], _ => []
  | .math t :: rest, breaks => t ++ emitSegments rest (breaks.drop (t.count '\n'))
  | .plain t :: rest, breaks =>
    let (line, left) := emitPlain t breaks
    line ++ emitSegments rest left

/-- A run of texts and line breaks. -/
def renderRun (run : List Token) : Fragment :=
  let source := runSource run
  .needing (textFeatures source) (emitSegments (Text.segments source) (runBreaks run))

/-- A run, unless there is none. -/
def flushRun (run : List Token) : Fragment :=
  if run.isEmpty then {} else renderRun run

/-! ## Other children -/

/-- The message about markup that is left out. -/
def droppedMarkup (content : Text) : Log.Record where
  logger := emitterLogger
  level := Log.debug
  message := "Dropping raw HTML: " ++ String.ofList (Text.quoted (content.take 50))

/-- A child that is neither part of a run nor a marker. -/
def renderLeaf (child : Token) : Fragment :=
  if child.kind = "code_inline" then
    .needing { chinese := Text.hasIdeograph child.content }
      (Tex.command "texttt" (Tex.escape child.content))
  else if child.kind = "image" then
    .needing { packages := { graphicx := true }, images := true }
      (Tex.command "includegraphics" (child.attrText "src"))
  else if child.kind = "html_inline" || child.kind = "html_block" then
    .ofNotice (droppedMarkup child.content)
  else .needing (textFeatures child.content) (Tex.escapeAroundMath child.content)

/-! ## Markers -/

/-- The kind of marker that closes an opening one. -/
def closerOf? (kind : String) : Option String :=
  if kind = "strong_open" then some "strong_close"
  else if kind = "em_open" then some "em_close"
  else if kind = "s_open" then some "s_close"
  else if kind = "link_open" then some "link_close"
  else none

/-- Whether a kind is that of a closing marker. -/
def isCloser (kind : String) : Bool :=
  kind = "strong_close" || kind = "em_close" || kind = "s_close" || kind = "link_close"

/-- The fragment between an opening marker and the one that closes it, decorated. -/
def decorate (opener : Token) (inner : Fragment) : Fragment :=
  if opener.kind = "strong_open" then inner.mapText (Tex.command "textbf")
  else if opener.kind = "em_open" then inner.mapText (Tex.command "textit")
  else if opener.kind = "s_open" then
    inner.mapText (Tex.command "sout") ++ .needing { packages := { ulem := true } } []
  else
    inner.mapText (fun t =>
        Tex.command "href" (Tex.escapeAddress (opener.attrText "href")) ++ Tex.braced t) ++
      .needing { packages := { hyperref := true } } []

/-- The message about a closing marker without partner. -/
def unmatchedMarker (kind : String) : Log.Record where
  logger := emitterLogger
  level := Log.debug
  message := "Ignoring unmatched inline marker " ++ quote kind

/-- An opening marker, and what was emitted before it since the marker around it. -/
structure Frame where
  opener : Token
  before : Fragment

/-- Everything emitted when markers are still open at the end: their texts, undecorated. -/
def unwind (inner : Fragment) : List Frame → Fragment
  | [] => inner
  | frame :: frames => unwind (frame.before ++ inner) frames

/-- Emits the children that are left. `frames` are the open markers, innermost first, `done` is what
was emitted since the innermost one, and `run` is the run that is being read. -/
def renderChildren (frames : List Frame) (done : Fragment) (run : List Token) :
    List Token → Fragment
  | [] => unwind (done ++ flushRun run) frames
  | child :: rest =>
    if isRunKind child.kind then renderChildren frames done (run ++ [child]) rest
    else
      let done := done ++ flushRun run
      if (closerOf? child.kind).isSome then renderChildren (⟨child, done⟩ :: frames) {} [] rest
      else if isCloser child.kind then
        match frames with
        | frame :: outer =>
          if closerOf? frame.opener.kind = some child.kind then
            renderChildren outer (frame.before ++ decorate frame.opener done) [] rest
          else renderChildren frames (done ++ .ofNotice (unmatchedMarker child.kind)) [] rest
        | [] => renderChildren [] (done ++ .ofNotice (unmatchedMarker child.kind)) [] rest
      else renderChildren frames (done ++ renderLeaf child) [] rest

/-- The running text of a list of children. -/
def renderInlines (children : List Token) : Fragment :=
  renderChildren [] {} [] children

/-- The running text of the inline token that the tokens start with, if they do. -/
def renderNextInline : List Token → Fragment
  | t :: _ => if t.kind = "inline" then renderInlines t.inlines else {}
  | [] => {}

/-- The visible text of a list of children, without markup. -/
def plainText (children : List Token) : Text :=
  children.flatMap fun child =>
    if child.kind = "text" || child.kind = "code_inline" then child.content else []

/-- The visible text of the inline token that the tokens start with, if they do. -/
def plainNextInline : List Token → Text
  | t :: _ => if t.kind = "inline" then plainText t.inlines else []
  | [] => []

end MarkTex.Body
