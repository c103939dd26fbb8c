import MarkTex.Markdown.Blocks
import MarkTex.Markdown.Trial

/-!
# The trials of a document

All trials that are made when the blocks of a document are read, in order. They follow the reading
of blocks step by step: what a block takes and where it ends is asked of that.
-/

namespace MarkTex.Markdown

namespace Surroundings

variable (s : Surroundings)

/-! ## Blocks without blocks inside -/

/-- The trials of the lines that may go on with a paragraph, the first of which is `line`. -/
def paragraphTrials (p : Place) (line : Nat) : List Line → List Trial
  | [] => []
  | l :: rest =>
    if l.isEmpty then []
    else if s.isCode l || l.indent < 0 then paragraphTrials p (line + 1) rest
    else
      s.textTrials p p.limit line s.listEndsParagraph l rest ++
        if s.endsParagraph l rest then [] else paragraphTrials p (line + 1) rest

/-- The trials of the lines that are looked at for one that underlines a heading. -/
def underlineTrials (p : Place) (stop line : Nat) : List Line → List Trial
  | [] => []
  | l :: rest =>
    if l.isEmpty then []
    else if s.isCode l then underlineTrials p stop (line + 1) rest
    else if !s.isOutdented l && (underlineLevel l.body).isSome then []
    else if l.indent < 0 then underlineTrials p stop (line + 1) rest
    else
      s.textTrials p stop line s.listEndsParagraph l rest ++
        if s.endsParagraph l rest then [] else underlineTrials p stop (line + 1) rest

/-- The trials of the first `count` lines, which may go on with a definition. -/
def definitionTrials (p : Place) (line count : Nat) : List Line → List Trial
  | [] => []
  | l :: rest =>
    match count with
    | 0 => []
    | count + 1 =>
      let trials :=
        if l.isEmpty || s.isCode l || l.indent < 0 then []
        else s.textTrials p p.limit line (fun l => (s.readMarker l).isSome) l rest
      trials ++ definitionTrials p (line + 1) count rest

/-- The number of lines after the first that are looked at for a definition. -/
def definitionReach (l : Line) (rest : List Line) : Nat :=
  if s.isCode l || l.body.head? ≠ some '[' then 0
  else
    let lines := l :: rest.take (s.paragraphExtra s.endsDefinition rest)
    linesPassed (lines.flatMap fun l => l.body ++ if l.ended then ['\n'] else [])

/-- The trials of the lines that may go on with a table, each with its place. -/
def tableTrials (p : Place) (stop : Nat) (columns rows : Nat) (below : List Line) : List Trial :=
  let row := 3 * columns + 2
  (below.take (rows + 1)).zipIdx.flatMap fun (l, i) =>
    let place : Place :=
      if i = 0 then { p with level := p.level + 1, tokens := p.tokens + row + 3 }
      else { p with level := p.level + 2, tokens := p.tokens + row + 4 + i * row }
    if s.isOutdented l then [] else s.quoteTrials place stop (p.line + 2 + i) l

/-! ## Quotations -/

/-- The trials of the lines that may go on with a quotation. -/
def quoteLineTrials (p : Place) (stop line : Nat) (afterEmpty : Bool) : List Line → List Trial
  | [] => []
  | l :: rest =>
    if l.isEmpty then []
    else if l.body.head? = some '>' && !s.isOutdented l then
      quoteLineTrials p stop (line + 1) (unquote l).isEmpty rest
    else if afterEmpty then []
    else
      s.quoteTrials p stop line l ++
        if s.endsQuote l then [] else quoteLineTrials p stop (line + 1) false rest

/-- Whether the line after a quotation ends it by what it starts. -/
def isQuoteEnded (lines rest : List Line) : Bool :=
  match rest.drop (lines.length - 1) with
  | [] => false
  | l :: _ => !l.isEmpty && !lines.getLast?.any Line.isEmpty && s.endsQuote l

end Surroundings

/-- The number of tokens of blocks. -/
def tokenCount (blocks : List (Block Text)) : Nat :=
  (flattenBlocks (fun text => inlineToken text []) blocks).length

/-! ## Blocks -/

mutual

/-- The trials for the blocks at the start of the lines. `depth` bounds how deep they nest. -/
def blocksTrials (depth : Nat) (s : Surroundings) (p : Place) (lines : List Line) : List Trial :=
  match lines with
  | [] => []
  | l :: rest =>
    if l.isEmpty then blocksTrials depth s { p with line := p.line + 1 } rest
    else if s.isOutdented l then []
    else
      match depth with
      | 0 => []
      | depth + 1 =>
        let first := readBlock depth s l rest
        let after : Place :=
          { p with line := p.line + 1 + first.extra, tokens := p.tokens + tokenCount first.blocks }
        blockTrials depth s p l rest ++ blocksTrials (depth + 1) s after (rest.drop first.extra)
termination_by (depth, lines.length, 1)
decreasing_by
  · simp_wf; exact Prod.Lex.right _ (Prod.Lex.left _ _ (by omega))
  · simp_wf; exact Prod.Lex.left _ _ (by omega)
  · simp_wf; exact Prod.Lex.right _ (Prod.Lex.left _ _ (by omega))

/-- The trials for the block that starts with the line `l`, which the lines of `rest` follow. -/
def blockTrials (depth : Nat) (s : Surroundings) (p : Place) (l : Line) (rest : List Line) :
    List Trial :=
  let stop := p.line + 1 + rest.length
  let enter (kind : Kind) : Trial := { kind, place := p, line := p.line, stop, ends := false }
  match s.readTableStart l rest with
  | some (_, header) =>
    let rows := (s.tableRows header.length 0 (rest.drop 1)).length
    s.tableTrials p stop header.length rows (rest.drop 1)
  | none =>
    enter .code :: if s.isCode l then [] else
    enter .fence :: if (s.readFenced l rest).isSome then [] else
    enter .quote ::
      if l.body.head? = some '>' then
        let first := Surroundings.unquote l
        let lines := first :: s.quoteLines first.isEmpty rest
        let limit := if s.isQuoteEnded lines rest then p.line + lines.length else p.limit
        let inside : Place := { p with level := p.level + 1, tokens := p.tokens + 1, limit }
        s.quoteLineTrials p stop (p.line + 1) first.isEmpty rest ++
          blocksTrials depth { s with indent := 0 } inside lines
      else enter .rule :: if (s.readRule l).isSome then [] else
        enter .list ::
          match s.readMarker l with
          | some m => itemsTrials depth s { p with tokens := p.tokens + 1 } m m l rest
          | none =>
            enter .definition ::
              (s.definitionTrials p (p.line + 1) (s.definitionReach l rest) rest ++
                if (s.readDefinitionAt l rest).isSome then [] else
                enter .markup :: if (s.readMarkup l rest).isSome then [] else
                enter .heading :: if (s.readHeadingLine l).isSome then [] else
                enter .underlined ::
                  (s.underlineTrials p stop (p.line + 1) rest ++
                    if (s.underlineAt rest).isSome then [] else
                    enter .paragraph :: s.paragraphTrials p (p.line + 1) rest))
termination_by (depth, rest.length + 1, 3)
decreasing_by
  · simp_wf
    have h := s.length_quoteLines_le (Surroundings.unquote l).isEmpty rest
    rcases Nat.lt_or_eq_of_le h with h | h
    · exact Prod.Lex.right _ (Prod.Lex.left _ _ (by omega))
    · rw [h]
      exact Prod.Lex.right _ (Prod.Lex.right _ (by omega))
  · exact Prod.Lex.right _ (Prod.Lex.right _ (by omega))

/-- The trials for the items of a list that starts with the marker `first`; the one in front of the
line `l` is `m`. The list is open. -/
def itemsTrials (depth : Nat) (s : Surroundings) (p : Place) (first m : Marker) (l : Line)
    (rest : List Line) : List Trial :=
  let (inside, indent) := Surroundings.itemLine l m
  let isBare := inside.isEmpty && rest.head?.all Line.isEmpty
  let s' := { s with indent, outer := some s.indent }
  let place : Place := { p with level := p.level + 2, tokens := p.tokens + 1 }
  let inner : Reading :=
    if isBare then { taken := 2 } else readBlocks (depth - 1) s' (inside :: rest)
  let trials := if isBare then [] else blocksTrials (depth - 1) s' place (inside :: rest)
  let extra := inner.taken - 1
  let after : Place :=
    { p with line := p.line + 1 + extra, tokens := p.tokens + 2 + tokenCount inner.blocks }
  match _left : rest.drop extra with
  | [] => trials
  | next :: others =>
    if s.isOutdented next || s.isCode next then trials
    else
      let stop := p.line + 1 + rest.length
      let ends := s.itemTrials { after with level := p.level + 1 } stop after.line next
      match if s.endsItem next then none else (readMarker next.body).filter (·.continues first) with
      | none => trials ++ ends
      | some m => trials ++ ends ++ itemsTrials depth s after first m next others
termination_by (depth, rest.length + 1, 2)
decreasing_by
  · simp_wf
    cases depth with
    | zero => exact Prod.Lex.right _ (Prod.Lex.right _ (by omega))
    | succ depth => exact Prod.Lex.left _ _ (by omega)
  · have h := congrArg List.length ‹rest.drop _ = _›
    simp only [List.length_drop, List.length_cons] at h
    exact Prod.Lex.right _ (Prod.Lex.left _ _ (by omega))

end

end MarkTex.Markdown
