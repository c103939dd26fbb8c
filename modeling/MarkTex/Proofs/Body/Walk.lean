import MarkTex.Proofs.Body.Fault
import MarkTex.Proofs.Body.Layer
import MarkTex.Proofs.Markdown.Balance
import MarkTex.Proofs.Text.Lines

/-!
# Walking over the positions of tokens

Here a body is emitted by positions in one list of tokens. Every lookup may fail, the steps are
counted, and each block has to end behind the position at which it starts, with the blocks inside of
it starting in between. If the level of every heading is one digit, then nothing of this ever fails,
however the tokens are ordered and nested: a number of steps that grows with the number of tokens is
enough, and what is emitted is the body (`walk_eq_render`).

## Shape of the proof

The tokens from a position on are the list that the blocks are emitted from without positions. One
lemma for each of the three mutual functions says that it does the same, by induction on the steps;
a block that starts behind another needs at least two steps less.
-/

namespace MarkTex.Body

open Markdown (Token closingKind findClose lengthOf tokensToClose tokensToClose_le)

/-! ## Lookups -/

/-- The token at a position. -/
def tokenAt (tokens : List Token) (position : Nat) : Except Obstacle Token :=
  match tokens[position]? with
  | some t => .ok t
  | none => .error (.noToken position)

/-- Looks through the next `count` tokens for the one that closes the last of `depth` blocks. -/
def closeFrom (tokens : List Token) (openKind closeKind : String) :
    Nat → Nat → Int → Except Obstacle Nat
  | 0, _, _ => .ok tokens.length
  | count + 1, position, depth => do
    let t ← tokenAt tokens position
    if t.kind = openKind then closeFrom tokens openKind closeKind count (position + 1) (depth + 1)
    else if t.kind = closeKind then
      if depth - 1 = 0 then .ok position
      else closeFrom tokens openKind closeKind count (position + 1) (depth - 1)
    else closeFrom tokens openKind closeKind count (position + 1) depth

/-- The position of the token that closes the one at `position`. -/
def closeAt (tokens : List Token) (position : Nat) : Except Obstacle Nat := do
  let t ← tokenAt tokens position
  closeFrom tokens t.kind (closingKind t.kind) (tokens.length - position) position 0

/-- The children of the inline token at a position, if there is one. -/
def inlinesAt (tokens : List Token) (position : Nat) : Except Obstacle (List Token) :=
  if position < tokens.length then do
    let t ← tokenAt tokens position
    .ok (if t.kind = "inline" then t.inlines else [])
  else .ok []

/-- The running text of the inline token at a position, if there is one. -/
def walkInlineAt (tokens : List Token) (position : Nat) : Except Obstacle Fragment := do
  walkInlines (← inlinesAt tokens position)

/-! ## Blocks without blocks -/

/-- A heading, if there is a sectioning command of its level. -/
def walkHeading (tag : String) (inner : Fragment) : Except Obstacle Fragment :=
  match headingLevel tag with
  | .error cause => .error (.fault (.headingLevel cause))
  | .ok level =>
    let position := (min (max level 1) headingCommands.length).toNat - 1
    match headingCommands[position]? with
    | none => .error (.noCommand position)
    | some command => .ok (inner.mapText (Tex.command command))

/-- The language that the first word after a fence names. -/
def walkLanguage (info : Text) : Except Obstacle (Text × List Log.Record) :=
  if (Text.strip info).isEmpty then .ok ([], [])
  else
    match Text.words (Text.strip info) with
    | [] => .error .noWord
    | word :: _ => .ok (Tex.language word)

/-- A code block in a language. -/
def listingIn (language : Text) (notices : List Log.Record) (t : Token) : Fragment :=
  let code := listingBody t.content
  let header :=
    if language.isEmpty then Tex.opening "lstlisting"
    else Tex.opening "lstlisting" ++ "[language=".toList ++ language ++ [']']
  { text := header ++ '\n' :: code ++ Tex.closing "lstlisting"
    features :=
      { packages := { listings := true, xcolor := true }
        code := true
        chinese := Text.hasIdeograph code }
    notices := notices }

/-- Takes in the token at a position of a table. -/
def collectStep (tokens : List Token) (s : Collected) (position : Nat) :
    Except Obstacle Collected := do
  let t ← tokenAt tokens position
  if opensCell t then do
    let children ← inlinesAt tokens (position + 1)
    let cell ← walkInlines children
    let s := s.align t
    .ok { s with
      row := s.row ++ [cell.text]
      plainRow := s.plainRow ++ [plainText children]
      needs := s.needs ++ cell.mapText fun _ => [] }
  else .ok (s.step t [])

/-- Takes in the next `count` tokens of a table. -/
def collectAt (tokens : List Token) (s : Collected) :
    Nat → Nat → Except Obstacle Collected
  | 0, _ => .ok s
  | count + 1, position => do
    let s ← collectStep tokens s position
    collectAt tokens s count (position + 1)

section

variable (options : Table.Options) (tokens : List Token)

/-- The table between two positions. -/
def walkTable (position close : Nat) : Except Obstacle Fragment := do
  let s ← collectAt tokens {} (close - (position + 1)) (position + 1)
  let needs := .needing { tables := true } [] ++ s.needs
  match Table.layout options s.cells.rows s.cells.plainRows s.cells.alignments with
  | .ok table =>
    .ok (needs ++
      { text := table.code
        features := { packages := Packages.ofNames table.packages }
        notices := table.notices })
  | .error cause => .error (.fault (.tableColumns cause))

/-! ## Blocks that hold blocks -/

mutual

/-- Emits the blocks that start between two positions, in no more than the given number of steps. -/
def walkBlocks : Nat → Nat → Nat → Except Obstacle (List Fragment)
  | 0, _, _ => .error .noSteps
  | steps + 1, start, stop =>
    if start < stop then do
      let (fragment, next) ← walkBlock steps start
      if start < next ∧ next ≤ tokens.length + 1 then do
        let fragments ← walkBlocks steps next stop
        .ok (fragment :: fragments)
      else .error (.noProgress start next)
    else .ok []

/-- Emits the block that starts at a position, and finds the position behind it. -/
def walkBlock : Nat → Nat → Except Obstacle (Fragment × Nat)
  | 0, _ => .error .noSteps
  | steps + 1, position => do
    let t ← tokenAt tokens position
    if t.kind = "heading_open" then do
      let text ← walkInlineAt tokens (position + 1)
      let heading ← walkHeading t.tag text
      .ok (heading, (← closeAt tokens position) + 1)
    else if t.kind = "paragraph_open" then do
      let text ← walkInlineAt tokens (position + 1)
      .ok (text, (← closeAt tokens position) + 1)
    else if t.kind = "bullet_list_open" || t.kind = "ordered_list_open" then do
      let close ← closeAt tokens position
      let items ← walkItems steps position (position + 1) close
      .ok (renderList (listEnvironment t.kind) items, close + 1)
    else if t.kind = "blockquote_open" then do
      let close ← closeAt tokens position
      let blocks ← walkBlocks steps (position + 1) close
      .ok (renderQuote blocks, close + 1)
    else if t.kind = "fence" || t.kind = "code_block" then do
      let (language, notices) ← walkLanguage t.info
      .ok (listingIn language notices t, position + 1)
    else if t.kind = "hr" then .ok (.ofText "\\hrule".toList, position + 1)
    else if t.kind = "table_open" then do
      let close ← closeAt tokens position
      let table ← walkTable options tokens position close
      .ok (table, close + 1)
    else if t.isClosing then .ok ({}, position + 1)
    else .ok (.ofNotice (passedOver t.kind), position + 1)

/-- Emits the items that start between two positions of the list that starts at `list`. -/
def walkItems : Nat → Nat → Nat → Nat → Except Obstacle (List Fragment)
  | 0, _, _, _ => .error .noSteps
  | steps + 1, list, position, close =>
    if position < close then do
      let t ← tokenAt tokens position
      if t.kind = "list_item_open" then do
        let itemClose ← closeAt tokens position
        if list < position + 1 then do
          let blocks ← walkBlocks steps (position + 1) (min itemClose close)
          let items ← walkItems steps list (itemClose + 1) close
          .ok (renderItem blocks :: items)
        else .error (.noDescent list (position + 1))
      else walkItems steps list (position + 1) close
    else .ok []

end

/-- Emits a body by the positions of its tokens. -/
def walk : Except Obstacle Fragment := do
  let blocks ← walkBlocks options tokens (2 * tokens.length + 1) 0 tokens.length
  .ok (.joinWith ['\n', '\n'] blocks)

end

/-! ## Lookups that hit -/

section

variable {tokens : List Token} {position : Nat}

/-- A position in front of the end has a token. -/
theorem exists_drop_eq_cons (h : position < tokens.length) :
    ∃ t, tokens.drop position = t :: tokens.drop (position + 1) ∧
      tokenAt tokens position = .ok t := by
  refine ⟨tokens[position], List.drop_eq_getElem_cons h, ?_⟩
  rw [tokenAt, List.getElem?_eq_getElem h]

/-- From a position at which a block is open on, its end is found where it is found in the tokens
that are left. -/
theorem closeFrom_eq (openKind closeKind : String) {count depth : Nat} (hdepth : 1 ≤ depth)
    (h : position + count = tokens.length) :
    closeFrom tokens openKind closeKind count position depth =
      .ok (position + tokensToClose openKind closeKind depth (tokens.drop position)) := by
  induction count generalizing position depth with
  | zero =>
    rw [closeFrom, List.drop_eq_nil_of_le (by omega), tokensToClose]
    exact congrArg Except.ok h.symm
  | succ count ih =>
    have hposition : position < tokens.length := by omega
    obtain ⟨t, hdrop, ht⟩ := exists_drop_eq_cons hposition
    have hnext : position + 1 + count = tokens.length := by omega
    rw [closeFrom, hdrop, ht, tokensToClose]
    simp only [bind, Except.bind]
    -- an opening token of the same kind adds a level, a closing one takes the innermost away
    split
    · have hmore := ih (Nat.le_add_left 1 depth) hnext
      rw [Nat.cast_succ] at hmore
      rw [hmore]
      exact congrArg Except.ok (by omega)
    split
    · -- the depth is counted in integers there, and never falls under zero before the block ends
      by_cases hlast : depth ≤ 1
      · rw [if_pos hlast, if_pos (by omega)]
        rfl
      · have hone : 1 ≤ depth - 1 := by omega
        have hless := ih hone hnext
        rw [Nat.cast_sub hdepth, Nat.cast_one] at hless
        rw [if_neg hlast, if_neg (by omega), hless]
        exact congrArg Except.ok (by omega)
    · rw [ih hdepth hnext]
      exact congrArg Except.ok (by omega)

/-- The end of a block is found, among the tokens or behind the last one. -/
theorem closeAt_eq {t : Token} (h : position < tokens.length)
    (ht : tokenAt tokens position = .ok t) :
    closeAt tokens position = .ok (position + 1 + lengthOf t (tokens.drop (position + 1))) := by
  have hcount : tokens.length - position = (tokens.length - (position + 1)) + 1 := by omega
  have hleft : position + 1 + (tokens.length - (position + 1)) = tokens.length := by omega
  have hrest := closeFrom_eq t.kind (closingKind t.kind) (Nat.le_refl 1) hleft
  rw [closeAt, ht]
  simp only [bind, Except.bind]
  rw [hcount, closeFrom, ht]
  simp only [bind, Except.bind, if_pos]
  exact hrest

/-- The children at a position are those of the inline token there, if there is one. -/
theorem inlinesAt_eq (tokens : List Token) (position : Nat) :
    inlinesAt tokens position = .ok (nextInlines (tokens.drop position)) := by
  rw [inlinesAt]
  by_cases h : position < tokens.length
  · obtain ⟨t, hdrop, ht⟩ := exists_drop_eq_cons h
    rw [if_pos h, hdrop, ht]
    rfl
  · rw [if_neg h, List.drop_eq_nil_of_le (Nat.not_lt.1 h)]
    rfl

/-- Emitting the running text at a position meets no obstacle. -/
theorem walkInlineAt_eq (tokens : List Token) (position : Nat) :
    walkInlineAt tokens position = .ok (renderNextInline (tokens.drop position)) := by
  rw [walkInlineAt, inlinesAt_eq, renderNextInline_eq]
  exact walkInlines_eq _

end

/-! ## Blocks without blocks -/

/-- There is a sectioning command of every level. -/
theorem walkHeading_eq {tag : String} (h : IsHeadingTag tag) (inner : Fragment) :
    walkHeading tag inner = .ok (renderHeading tag inner) := by
  obtain ⟨level, hlevel⟩ := headingLevel_of_isHeadingTag h
  -- the level is clamped to the commands there are, from below and from above
  have hposition :
      (min (max level 1) headingCommands.length).toNat - 1 = min (level.toNat - 1) 4 := by
    have hlength : headingCommands.length = 5 := rfl
    omega
  have hcommand : headingCommands[min (level.toNat - 1) 4]? = some (headingCommand level) := by
    have hbound : min (level.toNat - 1) 4 < headingCommands.length := by
      have hlength : headingCommands.length = 5 := rfl
      omega
    rw [headingCommand, List.getD_eq_getElem?_getD, List.getElem?_eq_getElem hbound,
      Option.getD_some]
  rw [walkHeading, renderHeading, hlevel]
  dsimp only
  rw [hposition, hcommand]

/-- There is a first word unless nothing but white space stands after a fence. -/
theorem walkLanguage_eq (info : Text) : walkLanguage info = .ok (listingLanguage info) := by
  rw [walkLanguage, listingLanguage, Text.words_strip]
  by_cases h : Text.strip info = []
  · have hwords : Text.words info = [] := by
      rw [← Text.words_strip, h]
      rfl
    rw [h, hwords]
    rfl
  · obtain ⟨word, words, hwords⟩ := List.exists_cons_of_ne_nil (Text.words_ne_nil h)
    rw [if_neg (mt List.isEmpty_iff.1 h), hwords]

/-! ## Tables -/

section

variable {tokens : List Token}

/-- The tokens behind one that opens no cell do not matter to it. -/
theorem step_of_not_opensCell (s : Collected) {t : Token} (h : opensCell t = false)
    (rest others : List Token) : s.step t rest = s.step t others := by
  rw [opensCell] at h
  rw [Collected.step, Collected.step, h]
  rfl

/-- Collecting one token of a table meets no obstacle. -/
theorem collectStep_eq (s : Collected) {t : Token} {position : Nat} {rest : List Token}
    (ht : tokenAt tokens position = .ok t)
    (hrest : nextInlines (tokens.drop (position + 1)) = nextInlines rest) :
    collectStep tokens s position = .ok (s.step t rest) := by
  rw [collectStep, ht]
  simp only [bind, Except.bind]
  by_cases hcell : opensCell t = true
  · rw [if_pos hcell, inlinesAt_eq, hrest]
    dsimp only
    rw [walkInlines_eq, ← plainNextInline_eq, ← renderNextInline_eq]
    rcases s.step_cases t rest with ⟨hkind, -⟩ | ⟨hkind, -⟩ | ⟨-, -, -, hstep⟩ | ⟨-, -, hnot, -⟩
    · simp [opensCell, hkind] at hcell
    · simp [opensCell, hkind] at hcell
    · rw [hstep]
      rfl
    · rw [hnot] at hcell
      exact absurd hcell Bool.false_ne_true
  · rw [if_neg hcell, step_of_not_opensCell s (Bool.eq_false_iff.2 hcell) [] rest]

/-- The tokens of a table are collected by their positions, if no running text stands behind. -/
theorem collectAt_eq (s : Collected) {count position : Nat} (h : position + count ≤ tokens.length)
    (hend : nextInlines (tokens.drop (position + count)) = []) :
    collectAt tokens s count position =
      .ok (collectFrom s ((tokens.drop position).take count)) := by
  induction count generalizing s position with
  | zero => rfl
  | succ count ih =>
    have hcount : position + (count + 1) = position + 1 + count := by omega
    rw [hcount] at h hend
    have hposition : position < tokens.length := by omega
    obtain ⟨t, hdrop, ht⟩ := exists_drop_eq_cons hposition
    -- the token behind the part that is read is no running text, so nothing of it is missed
    have hnext : nextInlines (tokens.drop (position + 1)) =
        nextInlines ((tokens.drop (position + 1)).take count) :=
      (nextInlines_take (by rw [List.drop_drop]; exact hend)).symm
    rw [collectAt, collectStep_eq s ht hnext, hdrop, List.take_succ_cons, collectFrom]
    exact ih _ h hend

/-- Laying out a table from its position meets no obstacle. -/
theorem walkTable_eq (options : Table.Options) {t : Token} {position : Nat}
    (h : position < tokens.length) (hkind : t.kind = "table_open") :
    walkTable options tokens position (position + 1 + lengthOf t (tokens.drop (position + 1))) =
      .ok (renderTable options
        ((tokens.drop (position + 1)).take (lengthOf t (tokens.drop (position + 1))))) := by
  have hle := tokensToClose_le t.kind (closingKind t.kind) 1 (tokens.drop (position + 1))
  rw [← lengthOf, List.length_drop] at hle
  have hclosing : closingKind t.kind ≠ "inline" := by
    rw [hkind]
    decide +kernel
  -- the token that closes the table is no cell and no running text
  have hend := nextInlines_drop_tokensToClose t.kind hclosing 1 (tokens.drop (position + 1))
  rw [List.drop_drop, ← lengthOf] at hend
  let inner := (tokens.drop (position + 1)).take (lengthOf t (tokens.drop (position + 1)))
  obtain ⟨table, hlayout⟩ := Table.exists_layout_eq_ok options (collectCells inner).1.rows
    (collectCells inner).1.plainRows (collectCells inner).1.alignments
  have hcells : collectAt tokens {} (lengthOf t (tokens.drop (position + 1))) (position + 1) =
      .ok (collectFrom {} inner) :=
    collectAt_eq {} (by omega) hend
  rw [walkTable, Nat.add_sub_cancel_left, hcells, renderTable]
  simp only [bind, Except.bind]
  rw [collectCells] at hlayout
  rw [collectCells, hlayout]

end

/-! ## Where blocks end -/

section

variable (options : Table.Options) {tokens : List Token}

/-- The block at a position is the first one of the tokens from there on. -/
theorem renderBlockAt_eq {t : Token} {position : Nat}
    (hdrop : tokens.drop position = t :: tokens.drop (position + 1)) :
    renderBlockAt options tokens position =
      ((renderBlock options t (tokens.drop (position + 1))).1,
        position + 1 + (renderBlock options t (tokens.drop (position + 1))).2) := by
  rw [renderBlockAt, hdrop]

/-- A block takes the tokens up to the one that closes it, if that is not the end of all tokens. -/
theorem taken_le (t : Token) (rest : List Token) :
    (renderBlock options t rest).2 ≤ rest.length + 1 := by
  -- a block with an end takes no more than what is left and the token that opens it
  have hlength : lengthOf t rest + 1 ≤ rest.length + 1 :=
    Nat.succ_le_succ (tokensToClose_le _ _ 1 rest)
  have hzero : 0 ≤ rest.length + 1 := Nat.zero_le _
  rw [renderBlock]
  split
  · exact hlength
  split
  · exact hlength
  split
  · exact hlength
  split
  · exact hlength
  split
  · exact hzero
  split
  · exact hzero
  split
  · exact hlength
  split <;> exact hzero

/-- A block ends behind its start, and no farther than one position behind the last token. -/
theorem renderBlockAt_bounds {position : Nat} (h : position < tokens.length) :
    position < (renderBlockAt options tokens position).2 ∧
      (renderBlockAt options tokens position).2 ≤ tokens.length + 1 := by
  obtain ⟨t, hdrop, -⟩ := exists_drop_eq_cons h
  have htaken := taken_le options t (tokens.drop (position + 1))
  rw [List.length_drop] at htaken
  rw [renderBlockAt_eq options hdrop]
  dsimp only
  omega

theorem renderBlocks_zero (tokens : List Token) : renderBlocks options 0 tokens = [] := by
  cases tokens <;> rw [renderBlocks]

theorem renderItems_zero (tokens : List Token) : renderItems options 0 tokens = [] := by
  cases tokens <;> rw [renderItems]

/-! ## Steps that are enough -/

mutual

/-- Emitting the blocks between two positions meets no obstacle, with two steps for each token left
and one more. -/
theorem walkBlocks_eq (h : ReadableHeadings tokens) : ∀ {steps start stop : Nat},
    stop ≤ tokens.length → 2 * (tokens.length - start) + 1 ≤ steps →
    walkBlocks options tokens steps start stop =
      .ok (renderBlocks options (stop - start) (tokens.drop start))
  | 0, _, _, _, hsteps => absurd hsteps (Nat.not_succ_le_zero _)
  | steps + 1, start, stop, hstop, hsteps => by
    rw [walkBlocks]
    by_cases hstart : start < stop
    · have hposition : start < tokens.length := Nat.lt_of_lt_of_le hstart hstop
      obtain ⟨t, hdrop, -⟩ := exists_drop_eq_cons hposition
      have hbounds := renderBlockAt_bounds options hposition
      -- the block itself and what follows it both have fewer tokens left
      rw [if_pos hstart, walkBlock_eq h hposition (by omega)]
      simp only [bind, Except.bind]
      rw [if_pos hbounds, walkBlocks_eq h hstop (by omega), renderBlockAt_eq options hdrop]
      have hcount : stop - start = stop - (start + 1) + 1 := by omega
      rw [hdrop, hcount, renderBlocks]
      simp only [List.drop_drop, Nat.sub_sub]
    · rw [if_neg hstart, Nat.sub_eq_zero_of_le (Nat.not_lt.1 hstart), renderBlocks_zero]

/-- Emitting one block meets no obstacle, with two steps for each token left. -/
theorem walkBlock_eq (h : ReadableHeadings tokens) : ∀ {steps position : Nat},
    position < tokens.length → 2 * (tokens.length - position) ≤ steps →
    walkBlock options tokens steps position = .ok (renderBlockAt options tokens position)
  | 0, _, hposition, hsteps => by omega
  | steps + 1, position, hposition, hsteps => by
    obtain ⟨t, hdrop, ht⟩ := exists_drop_eq_cons hposition
    have hmem : t ∈ tokens := List.mem_of_mem_drop (hdrop ▸ List.mem_cons_self)
    have hclose := closeAt_eq hposition ht
    have hle := tokensToClose_le t.kind (closingKind t.kind) 1 (tokens.drop (position + 1))
    rw [← lengthOf, List.length_drop] at hle
    have hcount : position + 1 + lengthOf t (tokens.drop (position + 1)) - (position + 1) =
        lengthOf t (tokens.drop (position + 1)) :=
      Nat.add_sub_cancel_left ..
    rw [walkBlock, ht, ok_bind, renderBlockAt_eq options hdrop, renderBlock]
    -- the kinds are told apart in the same order on both sides
    split
    · rename_i hkind
      rw [walkInlineAt_eq, ok_bind, walkHeading_eq (h t hmem hkind), ok_bind, hclose, ok_bind]
      rfl
    split
    · rw [walkInlineAt_eq, ok_bind, hclose, ok_bind]
      rfl
    split
    · rw [hclose, ok_bind, walkItems_eq h (Nat.lt_succ_self position) (by omega) (by omega),
        ok_bind, hcount]
      rfl
    split
    · rw [hclose, ok_bind, walkBlocks_eq h (by omega) (by omega), ok_bind, hcount]
      rfl
    split
    · rw [walkLanguage_eq, ok_bind]
      rfl
    split
    · rfl
    split
    · rename_i hkind
      rw [hclose, ok_bind, walkTable_eq options hposition hkind, ok_bind]
      rfl
    split <;> rfl

/-- Emitting the items of a list meets no obstacle, with as many steps as its blocks would take. -/
theorem walkItems_eq (h : ReadableHeadings tokens) : ∀ {steps list position close : Nat},
    list < position → close ≤ tokens.length → 2 * (tokens.length - position) + 1 ≤ steps →
    walkItems options tokens steps list position close =
      .ok (renderItems options (close - position) (tokens.drop position))
  | 0, _, _, _, _, _, hsteps => absurd hsteps (Nat.not_succ_le_zero _)
  | steps + 1, list, position, close, hlist, hclose, hsteps => by
    rw [walkItems]
    by_cases hend : position < close
    · have hposition : position < tokens.length := Nat.lt_of_lt_of_le hend hclose
      obtain ⟨t, hdrop, ht⟩ := exists_drop_eq_cons hposition
      have hcount : close - position = close - (position + 1) + 1 := by omega
      rw [if_pos hend, ht, ok_bind, hdrop, hcount, renderItems]
      by_cases hkind : t.kind = "list_item_open"
      · let length := lengthOf t (tokens.drop (position + 1))
        -- the blocks of an item end where it does, or with the list if the item is not closed in it
        have hinner : min (position + 1 + length) close - (position + 1) =
            min length (close - (position + 1)) := by
          omega
        have hrest :
            close - (position + 1 + length + 1) = close - (position + 1) - (length + 1) := by
          omega
        rw [if_pos hkind, if_pos hkind, closeAt_eq hposition ht, ok_bind,
          if_pos (Nat.lt_succ_of_lt hlist), walkBlocks_eq h (by omega) (by omega), ok_bind,
          walkItems_eq h (by omega) hclose (by omega), ok_bind, hinner, hrest]
        dsimp only
        rw [List.drop_drop]
        rfl
      · rw [if_neg hkind, if_neg hkind, walkItems_eq h (by omega) hclose (by omega)]
    · rw [if_neg hend, Nat.sub_eq_zero_of_le (Nat.not_lt.1 hend), renderItems_zero]

end

/-- **Emitting a body by positions meets no obstacle**, whatever the order, the nesting and the
balance of its tokens, if every heading has a tag with one digit: each lookup hits, in the tokens,
the stack of markers, the words after a fence, the sectioning commands and the columns of a table;
blocks only start behind the blocks that they are in; each block ends behind its start, no farther
than one position behind the last token; and the steps are enough. What is emitted is the body, and
it has no fault. -/
theorem walk_eq_render (h : ReadableHeadings tokens) :
    walk options tokens = .ok (render options tokens) ∧
      (render options tokens).fault = none ∧
      ∀ position, position < tokens.length →
        walkBlock options tokens (2 * tokens.length) position =
            .ok (renderBlockAt options tokens position) ∧
          position < (renderBlockAt options tokens position).2 ∧
          (renderBlockAt options tokens position).2 ≤ tokens.length + 1 := by
  refine ⟨?_, fault_render options h, fun position hposition => ⟨?_, ?_⟩⟩
  · rw [walk, walkBlocks_eq options h (Nat.le_refl _) (by omega), ok_bind]
    rfl
  · exact walkBlock_eq options h hposition (by omega)
  · exact renderBlockAt_bounds options hposition

end

/-- A heading in a list item that nothing opens a list for, and a quotation that nothing closes. -/
def strayItem : List Token :=
  [{ kind := "list_item_open" },
    { kind := "heading_open", tag := "h3" },
    { kind := "blockquote_open" },
    { kind := "heading_close" },
    { kind := "strong_close" }]

/-- Tokens out of order: an item outside of lists, a heading without a text, and a quote in it that
nothing closes. The walk over them meets no obstacle. -/
theorem walk_strayItem :
    ReadableHeadings strayItem ∧ walk {} strayItem = .ok (render {} strayItem) ∧
      (render {} strayItem).fault = none ∧
      1 < (renderBlockAt {} strayItem 1).2 ∧ (renderBlockAt {} strayItem 1).2 ≤ 6 := by
  have hreadable : ReadableHeadings strayItem := by
    intro t ht hkind
    have htag : ∀ t ∈ strayItem, t.kind = "heading_open" → t.tag = "h3" := by
      decide
    exact ⟨3, by decide, htag t ht hkind⟩
  obtain ⟨hwalk, hfault, hblocks⟩ := walk_eq_render {} hreadable
  exact ⟨hreadable, hwalk, hfault, (hblocks 1 (by decide)).2⟩

end MarkTex.Body
