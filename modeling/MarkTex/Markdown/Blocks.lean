import MarkTex.Markdown.Link
import MarkTex.Markdown.Scan
import MarkTex.Markdown.Start
import MarkTex.Markdown.Tree

/-!
# Reading blocks

The lines of a document become a list of block trees, and the definitions among them are noted. A
block takes lines from its first on; what it holds is read from its lines without its markers, in
surroundings of its own. Blocks that nest too deep are left out.
-/

namespace MarkTex.Markdown

/-- What was read from lines: blocks, definitions, and the number of lines that they take. -/
structure Reading where
  blocks : List (Block Text) := []
  definitions : Definitions := []
  taken : Nat := 0

/-- One block, and the number of lines that it takes beyond its first. -/
structure BlockReading where
  blocks : List (Block Text) := []
  definitions : Definitions := []
  extra : Nat := 0

namespace Surroundings

variable (s : Surroundings)

/-! ## Blocks without blocks inside -/

/-- The number of lines that go on with indented code, up to its last that is not empty. -/
def codeExtra : List Line → Nat
  | [] => 0
  | l :: rest =>
    if l.isEmpty then
      let more := codeExtra rest
      if more = 0 then 0 else more + 1
    else if s.isCode l then codeExtra rest + 1
    else 0

/-- Indented code. -/
def readCode (l : Line) (rest : List Line) : Option BlockReading :=
  if s.isCode l then
    let extra := s.codeExtra rest
    let text := joinContents (4 + s.indent) (l :: rest.take extra)
    some { blocks := [.code (text ++ ['\n'])], extra }
  else none

/-- The number of lines in a fenced code block, and whether a closing line follows them. An empty
line that ends the source is none of the block's. -/
def fenceExtra (f : Fence) : List Line → Nat × Bool
  | [] => (0, false)
  | l :: rest =>
    if l.isEmpty && !l.ended then (0, false)
    else if !l.isEmpty && s.isOutdented l then (0, false)
    else if !s.isCode l && f.isClosedBy l.body then (0, true)
    else
      let (count, closed) := fenceExtra f rest
      (count + 1, closed)

/-- Fenced code. -/
def readFenced (l : Line) (rest : List Line) : Option BlockReading :=
  if s.isCode l then none
  else
    (readFence l.body).map fun f =>
      let (count, closed) := s.fenceExtra f rest
      let code := joinContentsEnded l.indent (rest.take count)
      { blocks := [.fence f.info code], extra := if closed then count + 1 else count }

/-- A rule. -/
def readRule (l : Line) : Option BlockReading :=
  if !s.isCode l && isRule l.body then some { blocks := [.rule] } else none

/-- The number of lines that go on with raw markup. -/
def markupExtra (start : Markup.Start) : List Line → Nat
  | [] => 0
  | l :: rest =>
    if !l.isEmpty && s.isOutdented l then 0
    else if start.closes l.body then if l.body.isEmpty then 0 else 1
    else markupExtra start rest + 1

/-- Raw markup. -/
def readMarkup (l : Line) (rest : List Line) : Option BlockReading :=
  if !s.markup || s.isCode l then none
  else
    (Markup.start? l.body).map fun start =>
      let extra := if start.closes l.body then 0 else s.markupExtra start rest
      { blocks := [.markup (joinContentsEnded s.indent (l :: rest.take extra))], extra }

/-- A heading of one line. -/
def readHeadingLine (l : Line) : Option BlockReading :=
  if s.isCode l then none
  else
    (readHeading l.body).map fun (level, rest) => { blocks := [.heading level (headingText rest)] }

/-- The number of lines that go on with a paragraph, which the given test of a line and those after
it can end. -/
def paragraphExtra (ends : Line → List Line → Bool) : List Line → Nat
  | [] => 0
  | l :: rest =>
    if l.isEmpty then 0
    else if s.isCode l || l.indent < 0 || !ends l rest then paragraphExtra ends rest + 1
    else 0

/-- The lines of text of a heading that is underlined, beyond the first, and its level. -/
def underlineAt : List Line → Option (Nat × Nat)
  | [] => none
  | l :: rest =>
    if l.isEmpty then none
    else
      let further := (underlineAt rest).map fun (count, level) => (count + 1, level)
      if s.isCode l then further
      else
        match if s.isOutdented l then none else underlineLevel l.body with
        | some level => some (0, level)
        | none => if l.indent < 0 || !s.endsParagraph l rest then further else none

/-- The text of lines that make one running text. -/
def runningText (lines : List Line) : Text :=
  trim (joinContents s.indent lines)

/-- A heading that is underlined, or a paragraph. -/
def readParagraph (l : Line) (rest : List Line) : BlockReading :=
  match s.underlineAt rest with
  | some (count, level) =>
    { blocks := [.heading level (s.runningText (l :: rest.take count))], extra := count + 1 }
  | none =>
    let extra := s.paragraphExtra s.endsParagraph rest
    { blocks := [.paragraph (s.runningText (l :: rest.take extra))], extra }

/-- A definition, with the lines that it may take up. -/
def readDefinitionAt (l : Line) (rest : List Line) : Option BlockReading :=
  if s.isCode l || l.body.head? ≠ some '[' then none
  else
    let extra := s.paragraphExtra s.endsDefinition rest
    let lines := l :: rest.take extra
    let text := lines.flatMap fun l => l.body ++ if l.ended then ['\n'] else []
    (readDefinition text).map fun (name, target, left) =>
      { definitions := [(name, target)]
        extra := (text.take (text.length - left.length)).count '\n' }

/-- The most cells of a table that are added to rows with too few. -/
def mostAddedCells : Int := 65536

/-- The rows of a table below its header. `added` counts the cells that were added. -/
def tableRows (columns : Nat) (added : Int) : List Line → List (List Text)
  | [] => []
  | l :: rest =>
    if s.isOutdented l || s.endsQuote l || l.body.all isSpace || s.isCode l then []
    else
      let cells := readCells l.body
      let added := added + (columns - cells.length)
      if mostAddedCells < added then []
      else
        (cells.take columns ++ List.replicate (columns - cells.length) []) ::
          tableRows columns added rest

/-- A table. -/
def readTable (l : Line) (rest : List Line) : Option BlockReading :=
  (s.readTableStart l rest).map fun (alignments, header) =>
    let rows := s.tableRows header.length 0 (rest.drop 1)
    { blocks := [.table alignments header rows], extra := rows.length + 1 }

/-! ## Lines of quotations and items -/

/-- A line of a quotation without its marker. -/
def unquote (l : Line) : Line :=
  let column := l.indent + 1
  let t := l.body.drop 1
  let isTab := t.head? = some '\t'
  let narrow := t.head? = some ' ' || (isTab && (l.base + column) % 4 = 3)
  let t := if narrow then t.drop 1 else t
  let start := if narrow then column + 1 else column
  let shift := if isTab && !narrow then 1 else 0
  let (lead, last) := measureSpace (l.base + shift) start t
  { l with
    text := t
    lead := lead
    indent := last - start
    base := if narrow || isTab then column + 1 else column }

/-- The lines that go on with a quotation. A line without a marker only goes on with a paragraph;
`afterEmpty` tells that there can be none to go on with. -/
def quoteLines (afterEmpty : Bool) : List Line → List Line
  | [] => []
  | l :: rest =>
    if l.isEmpty then []
    else if l.body.head? = some '>' && !s.isOutdented l then
      let inner := unquote l
      inner :: quoteLines inner.isEmpty rest
    else if afterEmpty || s.endsQuote l then []
    else { l with indent := -1 } :: quoteLines false rest

/-- A quotation takes no more lines than there are. -/
theorem length_quoteLines_le (afterEmpty : Bool) (lines : List Line) :
    (s.quoteLines afterEmpty lines).length ≤ lines.length := by
  induction lines generalizing afterEmpty with
  | nil => simp [quoteLines]
  | cons l rest ih =>
    simp only [quoteLines]
    split
    · simp
    split
    · exact Nat.succ_le_succ (ih _)
    split
    · simp
    · exact Nat.succ_le_succ (ih _)

/-- The first line of an item without its marker, and the column at which the item's blocks start.
-/
def itemLine (l : Line) (m : Marker) : Line × Int :=
  let t := l.body.drop m.width
  let start := l.indent + m.width
  let (count, last) := measureSpace l.base start t
  let space := if count = t.length || 4 < last - start then 1 else last - start
  ({ l with lead := l.lead + m.width + count, indent := last }, start + space)

end Surroundings

/-! ## Blocks -/

mutual

/-- The blocks at the start of the lines. `depth` bounds how deep they nest. -/
def readBlocks (depth : Nat) (s : Surroundings) (lines : List Line) : Reading :=
  match lines with
  | [] => {}
  | l :: rest =>
    if l.isEmpty then
      let more := readBlocks depth s rest
      { more with taken := more.taken + 1 }
    else if s.isOutdented l then {}
    else
      match depth with
      | 0 => { taken := rest.length + 1 }
      | depth + 1 =>
        let first := readBlock depth s l rest
        let more := readBlocks (depth + 1) s (rest.drop first.extra)
        { blocks := first.blocks ++ more.blocks
          definitions := first.definitions ++ more.definitions
          taken := 1 + min first.extra rest.length + more.taken }
termination_by (depth, lines.length, 1)
decreasing_by
  · simp_wf; exact Prod.Lex.right _ (Prod.Lex.left _ _ (by omega))
  · simp_wf; exact Prod.Lex.left _ _ (by omega)
  · simp_wf; exact Prod.Lex.right _ (Prod.Lex.left _ _ (by omega))

/-- The block that starts with the line `l`, which the lines of `rest` follow. -/
def readBlock (depth : Nat) (s : Surroundings) (l : Line) (rest : List Line) : BlockReading :=
  match s.readTable l rest <|> s.readCode l rest <|> s.readFenced l rest with
  | some reading => reading
  | none =>
    if !s.isCode l && l.body.head? = some '>' then
      let first := Surroundings.unquote l
      let lines := first :: s.quoteLines first.isEmpty rest
      let inner := readBlocks depth { s with indent := 0 } lines
      { blocks := [.quote inner.blocks]
        definitions := inner.definitions
        extra := inner.taken - 1 }
    else
      match s.readRule l with
      | some reading => reading
      | none =>
        match s.readMarker l with
        | some m =>
          let (items, definitions, extra) := readItems depth s m m l rest
          { blocks := [.list m.start items], definitions, extra }
        | none =>
          let reading := s.readDefinitionAt l rest <|> s.readMarkup l rest <|> s.readHeadingLine l
          reading.getD (s.readParagraph l rest)
termination_by (depth, rest.length + 1, 3)
decreasing_by
  · simp_wf
    have h := s.length_quoteLines_le (Surroundings.unquote l).isEmpty rest
    rcases Nat.lt_or_eq_of_le h with h | h
    · exact Prod.Lex.right _ (Prod.Lex.left _ _ (by omega))
    · rw [h]
      exact Prod.Lex.right _ (Prod.Lex.right _ (by omega))
  · exact Prod.Lex.right _ (Prod.Lex.right _ (by omega))

/-- The items of a list that starts with the marker `first`; the one in front of the line `l` is
`m`. -/
def readItems (depth : Nat) (s : Surroundings) (first m : Marker) (l : Line) (rest : List Line) :
    List (Item Text) × Definitions × Nat :=
  let (inside, indent) := Surroundings.itemLine l m
  let inner : Reading :=
    if inside.isEmpty && rest.head?.all Line.isEmpty then { taken := 2 }
    else readBlocks (depth - 1) { s with indent, outer := some s.indent } (inside :: rest)
  let item := Item.mk m.number inner.blocks
  let extra := inner.taken - 1
  match _left : rest.drop extra with
  | [] => ([item], inner.definitions, extra)
  | next :: others =>
    let goesOn :=
      if s.isOutdented next || s.isCode next || s.endsItem next then none
      else (readMarker next.body).filter (·.continues first)
    match goesOn with
    | none => ([item], inner.definitions, extra)
    | some m =>
      let (items, definitions, more) := readItems depth s first m next others
      (item :: items, inner.definitions ++ definitions, extra + 1 + more)
termination_by (depth, rest.length + 1, 2)
decreasing_by
  · simp_wf
    cases depth with
    | zero => exact Prod.Lex.right _ (Prod.Lex.right _ (by omega))
    | succ depth => exact Prod.Lex.left _ _ (by omega)
  · have h := congrArg List.length ‹rest.drop _ = _›
    simp only [List.length_drop, List.length_cons] at h
    exact Prod.Lex.right _ (Prod.Lex.left _ _ (by omega))

end

end MarkTex.Markdown
