import MarkTex.Body.Inline
import MarkTex.Proofs.Math.Segment

/-!
# The kinds of line breaks

Outside formulas, a run of texts and line breaks should be set child by child: texts escaped, soft
breaks as line feeds, and hard breaks as commands that end lines (`setRun`). It is emitted by
counting: a line feed of the source, wherever it comes from, is set as the next break in line. So
the breaks are set as they should be exactly when counting tells each line feed outside formulas
right (`text_renderRun_iff`). It does where the line feeds of the source are those of the breaks, or
where no break is hard. A line feed inside a text takes the kind of a later break away, and that
break is set as the one after it (`not_setRun_lineFeed`).

## Shape of the proof

Both ways of setting a run are one function of its segments and its signs, which are the characters
of the source told apart by what they stand for. They differ only in how the signs are told: from
the children, or by counting (`emitSegments_eq`). A hard break and a line feed are never set with
the same first character, so what is set tells its signs (`setSegments_inj`).
-/

namespace MarkTex.Body

open Markdown (Token)

/-! ## Signs -/

/-- A character of the source of a run, told apart by what it stands for. -/
inductive Sign where
  /-- A character of a text, or the line feed of a soft break. -/
  | plain (c : Char)
  /-- The line feed of a hard break. -/
  | hardBreak
  deriving DecidableEq, Repr

namespace Sign

/-- The character of the source. -/
def char : Sign → Char
  | plain c => c
  | hardBreak => '\n'

/-- A sign as it is set outside formulas. -/
def set : Sign → Text
  | plain c => Tex.escapeChar c
  | hardBreak => ['\\', '\\', '\n']

/-- The sign of a line feed. -/
def ofBreak (hard : Bool) : Sign :=
  if hard then hardBreak else plain '\n'

/-- A break stands for a line feed, hard or soft. -/
theorem char_ofBreak (hard : Bool) : (ofBreak hard).char = '\n' := by
  cases hard <;> rfl

/-- Two signs of one character that start the same output are the same. -/
theorem eq_of_set_append {a b : Sign} (hchar : a.char = b.char) {x y : Text}
    (h : a.set ++ x = b.set ++ y) : a = b := by
  -- a hard break starts with a backslash, and a line feed is set as itself
  cases a with
  | plain c =>
    cases b with
    | plain d => exact congrArg plain hchar
    | hardBreak =>
      obtain rfl : c = '\n' := hchar
      exact absurd (List.cons.inj h).1 (by decide)
  | hardBreak =>
    cases b with
    | plain d =>
      obtain rfl : '\n' = d := hchar
      exact absurd (List.cons.inj h).1 (by decide)
    | hardBreak => rfl

/-- Signs of one text that are set alike at the start of an output are the same. -/
theorem eq_of_flatMap_set_append {signs others : List Sign}
    (hchars : signs.map char = others.map char) {x y : Text}
    (h : signs.flatMap set ++ x = others.flatMap set ++ y) : signs = others ∧ x = y := by
  induction signs generalizing others with
  | nil =>
    obtain rfl : others = [] := List.map_eq_nil_iff.1 hchars.symm
    exact ⟨rfl, h⟩
  | cons a signs ih =>
    cases others with
    | nil => exact nomatch hchars
    | cons b others =>
      obtain ⟨hchar, hrest⟩ := List.cons.inj hchars
      rw [List.flatMap_cons, List.flatMap_cons, List.append_assoc, List.append_assoc] at h
      obtain rfl := eq_of_set_append hchar h
      obtain ⟨rfl, hxy⟩ := ih hrest (List.append_cancel_left h)
      exact ⟨rfl, hxy⟩

end Sign

/-- The signs of a child of a run. -/
def signsOf (child : Token) : List Sign :=
  if child.kind = "text" then child.content.map .plain else [.ofBreak (child.kind = "hardbreak")]

/-- The signs of a run, told from its children. -/
def sourceSigns (run : List Token) : List Sign :=
  run.flatMap signsOf

/-- The signs of a text, told by counting: a line feed stands for the next of the breaks. -/
def signsInTurn : Text → List Bool → List Sign
  | [], _ => []
  | c :: t, breaks =>
    if c = '\n' then .ofBreak (breaks.headD false) :: signsInTurn t breaks.tail
    else .plain c :: signsInTurn t breaks

/-- The signs of a run, told by counting. -/
def countedSigns (run : List Token) : List Sign :=
  signsInTurn (runSource run) (runBreaks run)

/-- The signs of the children stand for the characters of the run's source. -/
theorem map_char_sourceSigns (run : List Token) :
    (sourceSigns run).map Sign.char = runSource run := by
  rw [sourceSigns, runSource, List.map_flatMap]
  refine congrArg (run.flatMap ·) (funext fun child => ?_)
  rw [signsOf]
  split
  · rw [List.map_map]
    exact List.map_id child.content
  · rw [List.map_singleton, Sign.char_ofBreak]

/-- Signs that are told by counting stand for the characters of the text. -/
theorem map_char_signsInTurn (t : Text) (breaks : List Bool) :
    (signsInTurn t breaks).map Sign.char = t := by
  induction t generalizing breaks with
  | nil => rfl
  | cons c t ih =>
    rw [signsInTurn]
    split
    · rename_i hc
      rw [List.map_cons, Sign.char_ofBreak, ih, hc]
    · rw [List.map_cons, ih]
      rfl

/-- Each character has one sign. -/
theorem length_signsInTurn (t : Text) (breaks : List Bool) :
    (signsInTurn t breaks).length = t.length := by
  have h := congrArg List.length (map_char_signsInTurn t breaks)
  rwa [List.length_map] at h

/-- Counting goes on behind a text with the breaks that it leaves. -/
theorem signsInTurn_append (s t : Text) (breaks : List Bool) :
    signsInTurn (s ++ t) breaks =
      signsInTurn s breaks ++ signsInTurn t (breaks.drop (s.count '\n')) := by
  induction s generalizing breaks with
  | nil => rfl
  | cons c s ih =>
    rw [List.cons_append, signsInTurn, signsInTurn]
    by_cases hc : c = '\n'
    · rw [if_pos hc, if_pos hc, ih, List.cons_append, hc, List.count_cons_self,
        ← List.drop_tail]
    · rw [if_neg hc, if_neg hc, ih, List.cons_append, List.count_cons_of_ne hc]

/-! ## Setting segments -/

/-- Segments as they are set: formulas as they are, and plain text sign by sign. -/
def setSegments : List Segment → List Sign → Text
  | [], _ => []
  | .math t :: rest, signs => t ++ setSegments rest (signs.drop t.length)
  | .plain t :: rest, signs =>
    (signs.take t.length).flatMap Sign.set ++ setSegments rest (signs.drop t.length)

/-- The signs outside formulas. -/
def plainSigns : List Segment → List Sign → List Sign
  | [], _ => []
  | .math t :: rest, signs => plainSigns rest (signs.drop t.length)
  | .plain t :: rest, signs => signs.take t.length ++ plainSigns rest (signs.drop t.length)

/-- **A run as it should be set**: its formulas as they are, and outside formulas each text escaped,
each soft break as a line feed, and each hard break as a command that ends the line. -/
def setRun (run : List Token) : Text :=
  setSegments (Text.segments (runSource run)) (sourceSigns run)

/-- Signs of one text are set alike exactly when they are the same outside formulas. -/
theorem setSegments_inj (segments : List Segment) {signs others : List Sign}
    (hchars : signs.map Sign.char = others.map Sign.char) :
    setSegments segments signs = setSegments segments others ↔
      plainSigns segments signs = plainSigns segments others := by
  induction segments generalizing signs others with
  | nil => exact ⟨fun _ => rfl, fun _ => rfl⟩
  | cons segment rest ih =>
    have hdrop (n : Nat) : (signs.drop n).map Sign.char = (others.drop n).map Sign.char := by
      rw [List.map_drop, List.map_drop, hchars]
    cases segment with
    | math t =>
      rw [setSegments, setSegments, plainSigns, plainSigns, List.append_cancel_left_eq]
      exact ih (hdrop t.length)
    | plain t =>
      rw [setSegments, setSegments, plainSigns, plainSigns]
      have htake : (signs.take t.length).map Sign.char = (others.take t.length).map Sign.char := by
        rw [List.map_take, List.map_take, hchars]
      -- both lists have the same characters, so they give the segment equally many signs
      have hlength : (signs.take t.length).length = (others.take t.length).length := by
        simpa using congrArg List.length htake
      constructor
      · intro h
        obtain ⟨hhere, hrest⟩ := Sign.eq_of_flatMap_set_append htake h
        rw [hhere, (ih (hdrop t.length)).1 hrest]
      · intro h
        obtain ⟨hhere, hrest⟩ := List.append_inj h hlength
        rw [hhere, (ih (hdrop t.length)).2 hrest]

/-- A text without dollars is set sign by sign. -/
theorem setSegments_of_not_mem {signs : List Sign} (h : '$' ∉ signs.map Sign.char) :
    setSegments (Text.segments (signs.map Sign.char)) signs = signs.flatMap Sign.set := by
  cases signs with
  | nil =>
    rw [List.map_nil, Text.segments_nil]
    rfl
  | cons a signs =>
    rw [List.map_cons] at h ⊢
    rw [Text.segments_of_not_mem h, setSegments, setSegments, ← List.map_cons, List.length_map,
      List.take_length, List.append_nil]

/-- A child of a run as it is set outside formulas. -/
def setChild (child : Token) : Text :=
  if child.kind = "text" then Tex.escape child.content
  else if child.kind = "hardbreak" then ['\\', '\\', '\n']
  else ['\n']

/-- A run without dollars should be set child by child. -/
theorem setRun_of_not_mem {run : List Token} (h : '$' ∉ runSource run) :
    setRun run = run.flatMap setChild := by
  have hchild (child : Token) : (signsOf child).flatMap Sign.set = setChild child := by
    rw [signsOf, setChild]
    by_cases htext : child.kind = "text"
    · rw [if_pos htext, if_pos htext, List.flatMap_map]
      rfl
    · rw [if_neg htext, if_neg htext, List.flatMap_singleton, Sign.ofBreak]
      by_cases hhard : child.kind = "hardbreak"
      · rw [if_pos (decide_eq_true hhard), if_pos hhard]
        rfl
      · rw [if_neg (by simpa using hhard), if_neg hhard]
        rfl
  -- without dollars the whole run is one plain segment
  rw [← map_char_sourceSigns] at h
  rw [setRun, ← map_char_sourceSigns, setSegments_of_not_mem h, sourceSigns, List.flatMap_assoc]
  exact congrArg (run.flatMap ·) (funext hchild)

/-! ## What is emitted -/

/-- The next break in line is set, or a soft one where none is left. -/
theorem emitBreak_eq (breaks : List Bool) :
    emitBreak breaks = ((Sign.ofBreak (breaks.headD false)).set, breaks.tail) := by
  rcases breaks with _ | ⟨_ | _, breaks⟩ <;> rfl

/-- A plain text is emitted sign by sign, and takes up as many breaks as it has line feeds. -/
theorem emitPlain_eq (t : Text) (breaks : List Bool) :
    emitPlain t breaks = ((signsInTurn t breaks).flatMap Sign.set, breaks.drop (t.count '\n')) := by
  induction t generalizing breaks with
  | nil => rfl
  | cons c t ih =>
    rw [emitPlain, signsInTurn]
    by_cases hc : c = '\n'
    · rw [if_pos hc, if_pos hc, emitBreak_eq, hc, List.count_cons_self, ← List.drop_tail]
      simp only [ih, List.flatMap_cons]
    · rw [if_neg hc, if_neg hc, List.count_cons_of_ne hc]
      simp only [ih, List.flatMap_cons]
      rfl

/-- What segments are emitted as is how they are set with the signs told by counting. -/
theorem emitSegments_eq (segments : List Segment) (breaks : List Bool) :
    emitSegments segments breaks =
      setSegments segments (signsInTurn (segments.flatMap Segment.text) breaks) := by
  induction segments generalizing breaks with
  | nil => rfl
  | cons segment rest ih =>
    have hlength (t : Text) : t.length = (signsInTurn t breaks).length :=
      (length_signsInTurn t breaks).symm
    -- the signs of the first segment come first, and the breaks that it takes up are gone for the
    -- rest
    rw [List.flatMap_cons, signsInTurn_append]
    cases segment with
    | math t =>
      rw [emitSegments, setSegments, ih, hlength t]
      exact congrArg (t ++ setSegments rest ·) List.drop_left.symm
    | plain t =>
      rw [emitSegments, setSegments, emitPlain_eq, hlength t, Segment.text, List.take_left,
        List.drop_left, ← ih]

/-- A run is set with the signs told by counting. -/
theorem text_renderRun (run : List Token) :
    (renderRun run).text = setSegments (Text.segments (runSource run)) (countedSigns run) := by
  have h := emitSegments_eq (Text.segments (runSource run)) (runBreaks run)
  rwa [Text.flatMap_text_segments] at h

/-! ## Where counting is right -/

/-- A text without line feeds takes up no break. -/
theorem signsInTurn_of_not_mem {t : Text} (h : '\n' ∉ t) (breaks : List Bool) :
    signsInTurn t breaks = t.map .plain := by
  induction t with
  | nil => rfl
  | cons c t ih =>
    rw [List.mem_cons, not_or] at h
    rw [signsInTurn, if_neg fun hc => h.1 hc.symm, ih h.2, List.map_cons]

/-- A text whose breaks are all soft is set as a text. -/
theorem signsInTurn_of_soft (t : Text) {breaks : List Bool} (h : true ∉ breaks) :
    signsInTurn t breaks = t.map .plain := by
  induction t generalizing breaks with
  | nil => rfl
  | cons c t ih =>
    rw [signsInTurn, List.map_cons]
    split
    · rename_i hc
      -- whether a break is left or not, the next one is soft
      have hsoft : breaks.headD false = false := by
        rcases breaks with _ | ⟨_ | _, breaks⟩
        · rfl
        · rfl
        · exact absurd List.mem_cons_self h
      rw [hsoft, hc, ih fun htail => h (List.mem_of_mem_tail htail)]
      rfl
    · rw [ih h]

/-- Counting tells the signs of a run whose texts hold no line feeds. -/
theorem countedSigns_of_texts {run : List Token}
    (htexts : ∀ child ∈ run, child.kind = "text" → '\n' ∉ child.content) :
    countedSigns run = sourceSigns run := by
  induction run with
  | nil => rfl
  | cons child run ih =>
    have hrest : signsInTurn (runSource run) (runBreaks run) = sourceSigns run :=
      ih fun other hother => htexts other (List.mem_cons_of_mem child hother)
    rw [countedSigns, sourceSigns, List.flatMap_cons, ← sourceSigns, ← hrest, signsOf, runSource,
      List.flatMap_cons, ← runSource, runBreaks]
    by_cases htext : child.kind = "text"
    · -- a text without line feeds takes up no break
      have hline := htexts child List.mem_cons_self htext
      rw [if_pos htext, if_pos htext, List.filter_cons_of_neg (by simpa using htext), ← runBreaks,
        signsInTurn_append, signsInTurn_of_not_mem hline, List.count_eq_zero_of_not_mem hline,
        List.drop_zero]
    · rw [if_neg htext, if_neg htext, List.filter_cons_of_pos (by simpa using htext), List.map_cons,
        ← runBreaks]
      rfl

/-- The signs of a run without hard breaks are the characters of its source. -/
theorem sourceSigns_of_soft {run : List Token} (hsoft : ∀ child ∈ run, child.kind ≠ "hardbreak") :
    sourceSigns run = (runSource run).map .plain := by
  rw [sourceSigns, runSource, List.map_flatMap, List.flatMap_def, List.flatMap_def]
  refine congrArg List.flatten (List.map_congr_left fun child hchild => ?_)
  rw [signsOf, decide_eq_false (hsoft child hchild)]
  split <;> rfl

/-- Counting tells the signs of a run without hard breaks. -/
theorem countedSigns_of_soft {run : List Token} (hsoft : ∀ child ∈ run, child.kind ≠ "hardbreak") :
    countedSigns run = sourceSigns run := by
  have hbreaks : true ∉ runBreaks run := by
    rw [runBreaks, List.mem_map]
    rintro ⟨child, hchild, hhard⟩
    exact hsoft child (List.mem_filter.1 hchild).1 (of_decide_eq_true hhard)
  rw [countedSigns, signsInTurn_of_soft _ hbreaks, sourceSigns_of_soft hsoft]

/-- **Every line break keeps its own kind and place exactly when counting tells it so.** A run is
always set sign by sign outside its formulas, with the signs told by counting. So it is set as it
should be exactly when these are the signs of its children outside formulas, as they are where no
text holds a line feed, and where no break is hard. -/
theorem text_renderRun_iff (run : List Token) :
    (renderRun run).text = setSegments (Text.segments (runSource run)) (countedSigns run) ∧
      ((renderRun run).text = setRun run ↔
        plainSigns (Text.segments (runSource run)) (countedSigns run) =
          plainSigns (Text.segments (runSource run)) (sourceSigns run)) ∧
      ((∀ child ∈ run, child.kind = "text" → '\n' ∉ child.content) ∨
          (∀ child ∈ run, child.kind ≠ "hardbreak") →
        (renderRun run).text = setRun run) := by
  have hchars : (countedSigns run).map Sign.char = (sourceSigns run).map Sign.char := by
    rw [countedSigns, map_char_signsInTurn, map_char_sourceSigns]
  refine ⟨text_renderRun run, ?_, ?_⟩
  · rw [text_renderRun, setRun]
    exact setSegments_inj _ hchars
  · intro h
    rw [text_renderRun, setRun, h.elim countedSigns_of_texts countedSigns_of_soft]

/-- A hard break in front of a formula that goes on over a soft one. -/
def formulaRun : List Token :=
  [{ kind := "text", content := "a".toList }, { kind := "hardbreak", tag := "br" },
    { kind := "text", content := "$x".toList }, { kind := "softbreak", tag := "br" },
    { kind := "text", content := "y$".toList }]

/-- A run with a formula in it is set as it should be, for its texts hold no line feed. -/
theorem text_renderRun_formula :
    (∀ child ∈ formulaRun, child.kind = "text" → '\n' ∉ child.content) ∧
      (renderRun formulaRun).text = setRun formulaRun := by
  have htexts : ∀ child ∈ formulaRun, child.kind = "text" → '\n' ∉ child.content := by decide
  exact ⟨htexts, (text_renderRun_iff formulaRun).2.2 (.inl htexts)⟩

/-! ## Where counting is wrong -/

/-- A line feed in a text, a hard break behind it, and another text. -/
def lineFeedRun : List Token :=
  [{ kind := "text", content := "a\nb".toList }, { kind := "hardbreak", tag := "br" },
    { kind := "text", content := "c".toList }]

/-- The line feed of a text takes the kind of the hard break behind it. -/
theorem not_setRun_lineFeed :
    setRun lineFeedRun = "a\nb\\\\\nc".toList ∧
      (renderRun lineFeedRun).text = "a\\\\\nb\nc".toList := by
  have hdollar : '$' ∉ runSource lineFeedRun := by decide
  constructor
  · rw [setRun_of_not_mem hdollar]
    decide
  · rw [text_renderRun, ← map_char_signsInTurn (runSource lineFeedRun) (runBreaks lineFeedRun),
      ← countedSigns, setSegments_of_not_mem (by decide)]
    decide

end MarkTex.Body
