import MarkTex.Markdown.Emphasis
import MarkTex.Markdown.Scan

/-!
# Running text

The text of a paragraph, heading or cell becomes a list of tokens: texts, line breaks, code, images,
and the markers around emphasis and links. Emphasis does not reach into or out of a link.
-/

namespace MarkTex.Markdown

/-- What was read of a running text: the tokens and delimiters so far, the text that is not yet a
token, last character first, and what is known about positions. -/
structure Running where
  tokens : Array Token := #[]
  delimiters : Array Delimiter := #[]
  pending : Text := []
  known : Known := {}

namespace Running

/-- Makes a token of the text that is none yet. -/
def flush (s : Running) : Running :=
  if s.pending.isEmpty then s
  else
    { s with
      tokens := s.tokens.push { kind := "text", content := s.pending.reverse }
      pending := [] }

/-- Adds a token. -/
def push (s : Running) (t : Token) : Running :=
  let s := s.flush
  { s with tokens := s.tokens.push t }

/-- Adds plain text. -/
def append (s : Running) (t : Text) : Running :=
  { s with pending := t.reverse ++ s.pending }

/-- Adds a text token that may open or close emphasis. -/
def pushMarker (s : Running) (content : Text) (mark : Char) (length : Nat)
    (flanks : Bool × Bool) : Running :=
  let s := s.push { kind := "text", content }
  { s with
    delimiters := s.delimiters.push
      { mark, length, token := s.tokens.size - 1, opens := flanks.1, closes := flanks.2 } }

/-- Adds markers one after the other. -/
def pushMarkers (s : Running) (content : Text) (mark : Char) (length : Nat) (flanks : Bool × Bool) :
    Nat → Running
  | 0 => s
  | count + 1 =>
    (s.pushMarker content mark length flanks).pushMarkers content mark length flanks count

/-- Adds a line break for a line feed: two spaces in front of it make it a hard one. -/
def breakLine (s : Running) : Running :=
  let spaces := (s.pending.takeWhile (· = ' ')).length
  let kind := if 2 ≤ spaces then "hardbreak" else "softbreak"
  { s with pending := s.pending.drop spaces }.push { kind, tag := "br" }

/-- The tokens of a running text that was read to its end. -/
def finish (s : Running) : Array Token :=
  let s := s.flush
  markDelimiters s.tokens s.delimiters

end Running

/-! ## Joining texts -/

/-- The tokens with neighbouring texts made one. -/
def joinTexts : List Token → List Token
  | [] => []
  | t :: rest =>
    match joinTexts rest with
    | next :: others =>
      if t.kind = "text" && next.kind = "text" then
        { next with content := t.content ++ next.content } :: others
      else t :: next :: others
    | [] => [t]

/-- A text that stands for an escape or reference, as a plain text. -/
def Token.asText (t : Token) : Token :=
  if t.kind = "text_special" then { t with kind := "text" } else t

/-- The tokens with escapes and references made part of the texts around them; the first of the
joined texts tells where a text came from. -/
def joinSpecialTexts : List Token → List Token
  | [] => []
  | t :: rest =>
    match joinSpecialTexts rest with
    | next :: others =>
      if t.asText.kind = "text" && next.kind = "text" then
        { t.asText with content := t.content ++ next.content } :: others
      else t.asText :: next :: others
    | [] => [t.asText]

/-! ## Reading -/

/-- The attributes of what goes to a target, which the named attribute tells. -/
def targetAttributes (name : String) (more : List (String × Attribute)) (target : Target) :
    List (String × Attribute) :=
  (name, .text target.address) :: more ++
    if target.title.isEmpty then [] else [("title", .text target.title)]

/-- Adds the markers of a run of `count` markers `mark` between two characters. -/
def readMarkers (s : Running) (mark : Char) (count : Nat) (before after : Char) : Running :=
  if mark = '~' then
    let flanks := flanking true before after
    if count < 2 then s.append [mark]
    else
      let s := if count % 2 = 1 then s.push { kind := "text", content := [mark] } else s
      s.pushMarkers [mark, mark] mark 0 flanks (count / 2)
  else s.pushMarkers [mark] mark count (flanking (mark = '*') before after) count

/-- The form at `pos`, where it has no running text inside: what it adds, and how many characters it
takes beyond its first. `before` is the character in front of it. -/
def readLeaf (context : Context) (before : Char) (pos : Nat) (c : Char) (r : Text) (s : Running) :
    Running × Nat :=
  if c = '\n' then (s.breakLine, spaceCount r)
  else if c = '\\' then
    match r with
    | [] => (s.append [c], 0)
    | d :: _ =>
      if d = '\n' then (s.push { kind := "hardbreak", tag := "br" }, escapeExtra r)
      else
        let content := if isAsciiPunctuation d then [d] else [c, d]
        (s.push { kind := "text_special", content, info := "escape".toList }, 1)
  else if c = '\x60' then
    match readCode s.known pos r with
    | (extra, some code, known) =>
      ({ s with known }.push
        { kind := "code_inline", tag := "code", content := shownCode code }, extra)
    | (extra, none, known) => ({ s with known }.append (c :: r.take extra), extra)
  else if c = '~' || c = '*' || c = '_' then
    let count := 1 + (r.takeWhile (· = c)).length
    if c = '~' && count < 2 then (s.append [c], 0)
    else (readMarkers s c count before ((r.drop (count - 1)).headD ' '), count - 1)
  else if c = '<' then
    match readAutolink r with
    | some (address, shown, extra) =>
      let link : Token :=
        { kind := "link_open", tag := "a", info := "auto".toList,
          attributes := [("href", .text address)] }
      let close : Token := { kind := "link_close", tag := "a", info := "auto".toList }
      (((s.push link).push { kind := "text", content := shown }).push close, extra)
    | none =>
      match markupExtra? context r with
      | some extra => (s.push { kind := "html_inline", content := c :: r.take extra }, extra)
      | none => (s.append [c], 0)
  else if c = '&' then
    match readReference r with
    | some (content, rest) =>
      (s.push { kind := "text_special", content, info := "entity".toList }, r.length - rest.length)
    | none => (s.append [c], 0)
  else if isSpecial c then (s.append [c], 0)
  else
    let extra := (r.takeWhile (!isSpecial ·)).length
    (s.append (c :: r.take extra), extra)

mutual

/-- Reads a running text to its end. `level` counts the links around it, `before` is the character
in front of the text, and `pos` the position of its first one. -/
def readRunning (context : Context) (level : Nat) (before : Char) (pos : Nat) (t : Text)
    (s : Running) : Running :=
  match t with
  | [] => s
  | c :: r =>
    let (s, extra) := readForm context level before pos c r s
    let last := if extra = 0 then c else r.getD (extra - 1) c
    readRunning context level last (pos + 1 + extra) (r.drop extra) s
termination_by (t.length, 1)
decreasing_by
  · simp_wf; exact Prod.Lex.right _ (by omega)
  · simp_wf; exact Prod.Lex.left _ _ (by omega)

/-- Reads the form that the text at `pos` starts with, and tells how many characters it takes beyond
its first. -/
def readForm (context : Context) (level : Nat) (before : Char) (pos : Nat) (c : Char) (r : Text)
    (s : Running) : Running × Nat :=
  if deepestNesting ≤ level then (s.append [c], 0)
  else if c = '[' then
    match readLink context level true pos r s.known with
    | (none, known) => ({ s with known }.append [c], 0)
    | (some link, known) =>
      let inner := readRunning context (level + 1) c (pos + 1) (r.take link.label) { known }
      let opener : Token :=
        { kind := "link_open", tag := "a", attributes := targetAttributes "href" [] link.target }
      let s := { s with known := inner.known }.push opener
      let s := { s with tokens := s.tokens ++ inner.finish }
      (s.push { kind := "link_close", tag := "a" }, link.extra)
  else if c = '!' then
    match r with
    | '[' :: t =>
      match readLink context level false (pos + 1) t s.known with
      | (none, known) => ({ s with known }.append [c], 0)
      | (some image, known) =>
        let content := t.take image.label
        let inner := readRunning context 0 ' ' 0 (t.take image.label) {}
        let children := joinSpecialTexts (joinTexts inner.finish.toList)
        let attributes := targetAttributes "src" [("alt", .text [])] image.target
        let token : Token :=
          { kind := "image", tag := "img", content, attributes,
            children := if children.isEmpty then none else some children }
        ({ s with known }.push token, image.extra + 1)
    | _ => (s.append [c], 0)
  else readLeaf context before pos c r s
termination_by (r.length + 1, 0)
decreasing_by
  · simp_wf; exact Prod.Lex.left _ _ (by omega)
  · simp_wf; exact Prod.Lex.left _ _ (by omega)

end

/-- The tokens of a running text. -/
def tokenizeInline (context : Context) (t : Text) : List Token :=
  let s := readRunning context 0 ' ' 0 t {}
  joinSpecialTexts (joinTexts s.finish.toList)

end MarkTex.Markdown
