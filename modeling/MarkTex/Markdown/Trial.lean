import MarkTex.Log.Setup
import MarkTex.Markdown.Start

/-!
# Trials

A line is tried for the kinds of blocks in a fixed order, up to the first kind that it starts. A
line that may end a block is tried in the same way. Each trial can be noted, with where reading has
come to; only the trials for tables are not.
-/

namespace MarkTex.Markdown

/-- The kinds of blocks whose trials are noted, in the order in which a line is tried. -/
inductive Kind where
  | code
  | fence
  | quote
  | rule
  | list
  | definition
  | markup
  | heading
  | underlined
  | paragraph
  deriving DecidableEq, Repr

/-- The name of a kind in notes. -/
def Kind.name : Kind → String
  | code => "code"
  | fence => "fence"
  | quote => "blockquote"
  | rule => "hr"
  | list => "list"
  | definition => "reference"
  | markup => "html_block"
  | heading => "heading"
  | underlined => "lheading"
  | paragraph => "paragraph"

/-- Where reading has come to. Lines count from the first of the source. -/
structure Place where
  /-- The first line of the block that is read. -/
  line : Nat := 0
  /-- The number of blocks that are open. -/
  level : Nat := 0
  /-- The number of tokens so far. -/
  tokens : Nat := 0
  /-- The first line that no paragraph goes on with. -/
  limit : Nat
  deriving DecidableEq, Repr

/-- One trial of a line for a kind of block. -/
structure Trial where
  kind : Kind
  place : Place
  /-- The line that is tried. -/
  line : Nat
  /-- The first line after those that the block can take. -/
  stop : Nat
  /-- Whether it only matters if the line ends the block before it. -/
  ends : Bool
  deriving DecidableEq, Repr

/-- The note about a trial. -/
def Trial.record (t : Trial) : Log.Record :=
  let name := t.kind.name
  let level := t.place.level
  let ends := if t.ends then "True" else "False"
  { logger := Log.tokenizerLogger ++ ".rules_block." ++ name
    level := Log.debug
    message :=
      s!"entering {name}: StateBlock(line={t.place.line},level={level}," ++
        s!"tokens={t.place.tokens}), {t.line}, {t.stop}, {ends}" }

/-- The trials for kinds up to the first that the line starts, given which it starts. -/
def Place.trials (p : Place) (line stop : Nat) : List (Kind × Bool) → List Trial
  | [] => []
  | (kind, starts) :: kinds =>
    let trial : Trial := { kind, place := p, line, stop, ends := true }
    if starts then [trial] else trial :: p.trials line stop kinds

namespace Surroundings

variable (s : Surroundings)

/-! ## Lines that may end a block -/

/-- The kinds of blocks that end an item, and whether the line starts them. -/
def itemEnds (l : Line) : List (Kind × Bool) :=
  let isCode := s.isCode l
  [(.fence, !isCode && (readFence l.body).isSome), (.quote, !isCode && l.body.head? = some '>'),
    (.rule, !isCode && isRule l.body)]

/-- The kinds of blocks that end a block other than an item, and whether the line starts them, given
that of lists. -/
def otherEnds (l : Line) (startsList : Bool) : List (Kind × Bool) :=
  let isCode := s.isCode l
  s.itemEnds l ++
    [(.list, !isCode && startsList),
      (.markup, !isCode && s.markup && (Markup.start? l.body).any (·.interrupts)),
      (.heading, !isCode && (readHeading l.body).isSome)]

/-- The trials of a line that may end an item. -/
def itemTrials (p : Place) (stop line : Nat) (l : Line) : List Trial :=
  p.trials line stop (s.itemEnds l)

/-- The trials of a line that may end a quotation or a table. -/
def quoteTrials (p : Place) (stop line : Nat) (l : Line) : List Trial :=
  p.trials line stop (s.otherEnds l (s.readMarker l).isSome)

/-- The trials of a line that may end running text, given whether it starts a list. Where it starts
a table there are none. -/
def textTrials (p : Place) (stop line : Nat) (startsList : Line → Bool) (l : Line)
    (rest : List Line) : List Trial :=
  if (s.readTableStart l rest).isSome then []
  else p.trials line stop (s.otherEnds l (startsList l))

end Surroundings

end MarkTex.Markdown
