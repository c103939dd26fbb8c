import MarkTex.Markdown.Tokenize
import MarkTex.Proofs.Body.Marker
import Mathlib.Data.List.Forall2

/-!
# Hard breaks in running text

When the soft breaks of a running text are made hard, it is emitted with commands that end a line in
front of some of its line feeds, and with no other change. None of these line feeds is in a formula
(`endsLines_renderInlines`).

## Shape of the proof

Making breaks hard changes no phrase but the runs, and of these only the breaks: the source of a run
and so its segments stay as they are. So it is enough to compare the two lists of breaks that the
same segments take up in turn (`endsLines_emitSegments`).
-/

namespace MarkTex.Body

open Markdown (Token)

/-! ## Marked text -/

/-- An emitted text, each character with whether it is emitted for plain text of a run: neither in a
formula, nor part of a command or another child. -/
abbrev Marked := List (Char × Bool)

/-- Characters that are emitted for plain text of a run. -/
def markPlain (t : Text) : Marked :=
  t.map (·, true)

/-- Characters that are emitted for anything else. -/
def markFixed (t : Text) : Marked :=
  t.map (·, false)

/-- The second text is the first with commands that end a line in front of some line feeds, all of
them in the plain text of runs. -/
inductive EndsLines : Marked → Text → Prop
  | nil : EndsLines [] []
  | keep {sign : Char × Bool} {s : Marked} {t : Text} :
    EndsLines s t → EndsLines (sign :: s) (sign.1 :: t)
  | add {s : Marked} {t : Text} :
    EndsLines s t → EndsLines (('\n', true) :: s) ('\\' :: '\\' :: '\n' :: t)

/-- Marking the characters of plain text leaves the text as it is. -/
theorem map_fst_markPlain (t : Text) : (markPlain t).map Prod.fst = t := by
  rw [markPlain, List.map_map]
  exact List.map_id t

/-- Marking the characters of fixed text leaves the text as it is. -/
theorem map_fst_markFixed (t : Text) : (markFixed t).map Prod.fst = t := by
  rw [markFixed, List.map_map]
  exact List.map_id t

namespace EndsLines

theorem refl (s : Marked) : EndsLines s (s.map Prod.fst) := by
  induction s with
  | nil => exact .nil
  | cons sign s ih => exact .keep ih

/-- Lines of plain text may be ended or not; here none is. -/
theorem plain (t : Text) : EndsLines (markPlain t) t := by
  have h := refl (markPlain t)
  rwa [map_fst_markPlain] at h

/-- Fixed text is emitted as it is. -/
theorem fixed (t : Text) : EndsLines (markFixed t) t := by
  have h := refl (markFixed t)
  rwa [map_fst_markFixed] at h

theorem append {s s' : Marked} {t t' : Text} (h : EndsLines s t) (h' : EndsLines s' t') :
    EndsLines (s ++ s') (t ++ t') := by
  induction h with
  | nil => exact h'
  | keep _ ih => exact .keep ih
  | add _ ih => exact .add ih

end EndsLines

/-! ## Marking what is emitted -/

/-- Segments as they are emitted, marked. -/
def markSegments : List Segment → List Bool → Marked
  | [], _ => []
  | .math t :: rest, breaks => markFixed t ++ markSegments rest (breaks.drop (t.count '\n'))
  | .plain t :: rest, breaks =>
    markPlain (emitPlain t breaks).1 ++ markSegments rest (emitPlain t breaks).2

/-- A run as it is emitted, marked. -/
def markRun (run : List Token) : Marked :=
  markSegments (Text.segments (runSource run)) (runBreaks run)

mutual

/-- A phrase as it is emitted, marked. -/
def Phrase.mark : Phrase → Marked
  | .run children => markRun children
  | .leaf child => markFixed (renderLeaf child).text
  | .marked opener _ inner => markFixed (decoration opener) ++ markPhrases inner ++ markFixed ['}']
  | .unclosed _ => []
  | .unmatched _ => []

/-- Phrases as they are emitted, marked. -/
def markPhrases : List Phrase → Marked
  | [] => []
  | phrase :: phrases => phrase.mark ++ markPhrases phrases

end

/-- A running text as it is emitted, marked. -/
def markInlines (children : List Token) : Marked :=
  markPhrases (arrange children)

/-- Marked segments are what the segments are emitted as. -/
theorem map_fst_markSegments (segments : List Segment) (breaks : List Bool) :
    (markSegments segments breaks).map Prod.fst = emitSegments segments breaks := by
  induction segments generalizing breaks with
  | nil => rw [markSegments, emitSegments, List.map_nil]
  | cons segment rest ih =>
    cases segment with
    | math t => rw [markSegments, emitSegments, List.map_append, map_fst_markFixed, ih]
    | plain t => rw [markSegments, emitSegments, List.map_append, map_fst_markPlain, ih]

mutual

/-- A marked phrase is what the phrase is emitted as. -/
theorem map_fst_mark : ∀ phrase : Phrase, phrase.mark.map Prod.fst = phrase.text
  | .run children => by
    rw [Phrase.mark, Phrase.text, markRun, map_fst_markSegments]
    rfl
  | .leaf child => by rw [Phrase.mark, Phrase.text, map_fst_markFixed]
  | .marked opener _ inner => by
    rw [Phrase.mark, Phrase.text, List.map_append, List.map_append, map_fst_markFixed,
      map_fst_markFixed, map_fst_markPhrases inner]
  | .unclosed _ => by rw [Phrase.mark, Phrase.text, List.map_nil]
  | .unmatched _ => by rw [Phrase.mark, Phrase.text, List.map_nil]

/-- Marked phrases are what the phrases are emitted as. -/
theorem map_fst_markPhrases :
    ∀ phrases : List Phrase, (markPhrases phrases).map Prod.fst = textOfPhrases phrases
  | [] => by rw [markPhrases, textOfPhrases, List.map_nil]
  | phrase :: phrases => by
    rw [markPhrases, textOfPhrases, List.map_append, map_fst_mark phrase,
      map_fst_markPhrases phrases]

end

/-- What is marked is the running text as it is emitted. -/
theorem map_fst_markInlines (children : List Token) :
    (markInlines children).map Prod.fst = (renderInlines children).text := by
  rw [markInlines, map_fst_markPhrases, renderInlines_eq, text_renderPhrases]

/-! ## Tokens with hard breaks -/

/-- The children of a token with hard breaks are its children, each with its break made hard. -/
theorem inlines_hardenBreaks (t : Token) :
    t.hardenBreaks.inlines = t.inlines.map Token.hardened := by
  rw [Token.inlines, Token.inlines, Token.hardenBreaks]
  cases t.children <;> rfl

/-- Only soft breaks are changed. -/
theorem hardened_of_ne {t : Token} (h : t.kind ≠ "softbreak") : t.hardened = t := by
  rw [Token.hardened, if_neg h]

/-- Only parts of runs are made hard. -/
theorem hardened_of_not_run {t : Token} (h : isRunKind t.kind = false) : t.hardened = t := by
  apply hardened_of_ne
  intro hkind
  rw [hkind] at h
  exact absurd h (by decide)

/-- A token belongs to a run with a hard break just if it does with a soft one. -/
theorem isRunKind_hardened (t : Token) : isRunKind t.hardened.kind = isRunKind t.kind := by
  rw [Token.hardened]
  split
  · rename_i hkind
    rw [hkind]
    rfl
  · rfl

/-- A break that is made hard is no text, and its content is never read. -/
theorem source_hardened (t : Token) :
    (if t.hardened.kind = "text" then t.hardened.content else ['\n']) =
      if t.kind = "text" then t.content else ['\n'] := by
  rw [Token.hardened]
  split
  · rename_i hkind
    rw [hkind]
    rfl
  · rfl

/-- Both kinds of breaks are a line feed in the source of a run. -/
theorem runSource_hardened (run : List Token) :
    runSource (run.map Token.hardened) = runSource run := by
  rw [runSource, List.flatMap_map]
  exact congrArg (run.flatMap ·) (funext source_hardened)

/-- As many breaks, and where one was hard it is hard. -/
abbrev Harder (breaks others : List Bool) : Prop :=
  List.Forall₂ (fun hard hard' => hard = true → hard' = true) breaks others

/-- The breaks of a run are the same ones in the same order, where each hard one stays hard. -/
theorem harder_runBreaks (run : List Token) :
    Harder (runBreaks run) (runBreaks (run.map Token.hardened)) := by
  induction run with
  | nil => exact .nil
  | cons t run ih =>
    rw [runBreaks, runBreaks, List.map_cons]
    by_cases hsoft : t.kind = "softbreak"
    · have htext : t.kind ≠ "text" := by
        rw [hsoft]
        decide
      have hhard : t.hardened.kind = "hardbreak" := by
        rw [Token.hardened, if_pos hsoft]
      -- the soft break is one of the breaks, and the hard one that it becomes is one too
      rw [List.filter_cons_of_pos (by simpa using htext),
        List.filter_cons_of_pos (by rw [hhard]; decide)]
      exact .cons (fun _ => decide_eq_true hhard) ih
    · rw [hardened_of_ne hsoft]
      by_cases htext : t.kind = "text"
      · rw [List.filter_cons_of_neg (by simpa using htext),
          List.filter_cons_of_neg (by simpa using htext)]
        exact ih
      · rw [List.filter_cons_of_pos (by simpa using htext),
          List.filter_cons_of_pos (by simpa using htext)]
        exact .cons id ih

/-! ## Runs -/

/-- A line feed is emitted alone, or behind the command that ends a line. -/
theorem endsLines_emitBreak {breaks others : List Bool} (h : Harder breaks others) :
    EndsLines (markPlain (emitBreak breaks).1) (emitBreak others).1 ∧
      Harder (emitBreak breaks).2 (emitBreak others).2 := by
  cases h with
  | nil => exact ⟨.plain _, .nil⟩
  | @cons hard hard' breaks others hharder hrest =>
    cases hard with
    | true =>
      obtain rfl := hharder rfl
      exact ⟨.plain _, hrest⟩
    | false =>
      cases hard' with
      | false => exact ⟨.plain _, hrest⟩
      | true => exact ⟨.add .nil, hrest⟩

/-- Plain text is emitted with the same characters, and what is left of the breaks stays in step. -/
theorem endsLines_emitPlain (t : Text) {breaks others : List Bool} (h : Harder breaks others) :
    EndsLines (markPlain (emitPlain t breaks).1) (emitPlain t others).1 ∧
      Harder (emitPlain t breaks).2 (emitPlain t others).2 := by
  have happend : ∀ s t : Text, markPlain (s ++ t) = markPlain s ++ markPlain t :=
    fun s t => List.map_append
  induction t generalizing breaks others with
  | nil => exact ⟨.nil, h⟩
  | cons c t ih =>
    rw [emitPlain, emitPlain]
    by_cases hc : c = '\n'
    · rw [if_pos hc, if_pos hc]
      -- a line feed takes up a break from each of the two lists
      obtain ⟨hline, hleft⟩ := endsLines_emitBreak h
      obtain ⟨hmore, hleft⟩ := ih hleft
      dsimp only
      rw [happend]
      exact ⟨hline.append hmore, hleft⟩
    · rw [if_neg hc, if_neg hc]
      obtain ⟨hmore, hleft⟩ := ih h
      dsimp only
      rw [happend]
      exact ⟨(EndsLines.plain _).append hmore, hleft⟩

/-- The same segments take up as many breaks, and formulas swallow the same ones. -/
theorem endsLines_emitSegments (segments : List Segment) {breaks others : List Bool}
    (h : Harder breaks others) :
    EndsLines (markSegments segments breaks) (emitSegments segments others) := by
  induction segments generalizing breaks others with
  | nil => exact .nil
  | cons segment rest ih =>
    cases segment with
    | math t => exact (EndsLines.fixed t).append (ih (List.forall₂_drop _ h))
    | plain t =>
      obtain ⟨hplain, hleft⟩ := endsLines_emitPlain t h
      exact hplain.append (ih hleft)

/-- A run with its breaks made hard ends lines in front of some of its line feeds. -/
theorem endsLines_renderRun (run : List Token) :
    EndsLines (markRun run) (renderRun (run.map Token.hardened)).text := by
  have hsegments := endsLines_emitSegments (Text.segments (runSource run)) (harder_runBreaks run)
  rw [← runSource_hardened] at hsegments
  rw [markRun, ← runSource_hardened]
  exact hsegments

/-! ## Phrases -/

mutual

/-- A phrase with its breaks made hard. -/
def Phrase.hardened : Phrase → Phrase
  | .run children => .run (children.map Token.hardened)
  | .leaf child => .leaf child
  | .marked opener closer inner => .marked opener closer (hardenPhrases inner)
  | .unclosed opener => .unclosed opener
  | .unmatched closer => .unmatched closer

/-- Phrases with their breaks made hard. -/
def hardenPhrases : List Phrase → List Phrase
  | [] => []
  | phrase :: phrases => phrase.hardened :: hardenPhrases phrases

end

theorem hardenPhrases_append (phrases others : List Phrase) :
    hardenPhrases (phrases ++ others) = hardenPhrases phrases ++ hardenPhrases others := by
  induction phrases with
  | nil => rfl
  | cons phrase phrases ih =>
    rw [List.cons_append, hardenPhrases, ih, hardenPhrases, List.cons_append]

/-- A run that is closed is changed child by child. -/
theorem hardenPhrases_closeRun (run : List Token) :
    hardenPhrases (closeRun run) = closeRun (run.map Token.hardened) := by
  cases run with
  | nil => rfl
  | cons t run => rfl

/-- An open marker, and the phrases before it with their breaks made hard. -/
def OpenMarker.hardened (marker : OpenMarker) : OpenMarker :=
  { marker with before := hardenPhrases marker.before }

/-- Markers that stay open are changed together with what stands in front of them. -/
theorem hardenPhrases_leaveOpen (inner : List Phrase) (markers : List OpenMarker) :
    hardenPhrases (leaveOpen inner markers) =
      leaveOpen (hardenPhrases inner) (markers.map OpenMarker.hardened) := by
  induction markers generalizing inner with
  | nil => rfl
  | cons marker markers ih =>
    rw [leaveOpen, ih, hardenPhrases_append, hardenPhrases, Phrase.hardened]
    rfl

/-- Markers go together as before when breaks are made hard. -/
theorem arrangeFrom_hardened (markers : List OpenMarker) (done : List Phrase)
    (run children : List Token) :
    arrangeFrom (markers.map OpenMarker.hardened) (hardenPhrases done) (run.map Token.hardened)
        (children.map Token.hardened) =
      hardenPhrases (arrangeFrom markers done run children) := by
  induction children generalizing markers done run with
  | nil =>
    rw [List.map_nil, arrangeFrom, arrangeFrom, hardenPhrases_leaveOpen, hardenPhrases_append,
      hardenPhrases_closeRun]
  | cons child rest ih =>
    rw [List.map_cons]
    by_cases hrun : isRunKind child.kind = true
    · rw [arrangeFrom, if_pos (by rw [isRunKind_hardened, hrun]), arrangeFrom, if_pos hrun, ← ih,
        List.map_append, List.map_singleton]
    have hdone : hardenPhrases done ++ closeRun (run.map Token.hardened) =
        hardenPhrases (done ++ closeRun run) := by
      rw [hardenPhrases_append, hardenPhrases_closeRun]
    have hconcat : ∀ phrase : Phrase, phrase.hardened = phrase →
        hardenPhrases (done ++ closeRun run) ++ [phrase] =
          hardenPhrases (done ++ closeRun run ++ [phrase]) := by
      intro phrase hphrase
      rw [hardenPhrases_append (done ++ closeRun run), hardenPhrases, hphrase]
      rfl
    -- a child outside of runs ends the run before it, and is itself no break
    rw [hardened_of_not_run (Bool.eq_false_iff.2 hrun), arrangeFrom, if_neg hrun, arrangeFrom,
      if_neg hrun]
    simp only [hdone]
    by_cases hopener : (closerOf? child.kind).isSome = true
    · rw [if_pos hopener, if_pos hopener, ← ih]
      rfl
    rw [if_neg hopener, if_neg hopener]
    by_cases hcloser : isCloser child.kind = true
    · rw [if_pos hcloser, if_pos hcloser]
      cases markers with
      | nil =>
        simp only [List.map_nil]
        rw [hconcat _ rfl, ← ih]
        rfl
      | cons marker outer =>
        simp only [List.map_cons]
        by_cases hmatch : closerOf? marker.opener.kind = some child.kind
        · have hmarked : marker.hardened.before ++
                [.marked marker.hardened.opener child (hardenPhrases (done ++ closeRun run))] =
              hardenPhrases
                (marker.before ++ [.marked marker.opener child (done ++ closeRun run)]) := by
            rw [hardenPhrases_append marker.before]
            rfl
          rw [if_pos hmatch, hmarked, ← ih]
          exact if_pos hmatch
        · rw [if_neg hmatch, hconcat _ rfl, ← ih]
          exact if_neg hmatch
    · rw [if_neg hcloser, if_neg hcloser, hconcat _ rfl, ← ih]
      rfl

/-- Children with hard breaks are arranged into the same phrases, with hard breaks in them. -/
theorem arrange_hardened (children : List Token) :
    arrange (children.map Token.hardened) = hardenPhrases (arrange children) :=
  arrangeFrom_hardened [] [] [] children

mutual

/-- A phrase with its breaks made hard ends lines in front of some of its line feeds. -/
theorem endsLines_phrase : ∀ phrase : Phrase, EndsLines phrase.mark phrase.hardened.text
  | .run children => by
    rw [Phrase.mark, Phrase.hardened, Phrase.text]
    exact endsLines_renderRun children
  | .leaf child => by
    rw [Phrase.mark, Phrase.hardened, Phrase.text]
    exact .fixed _
  | .marked opener _ inner => by
    rw [Phrase.mark, Phrase.hardened, Phrase.text]
    exact ((EndsLines.fixed _).append (endsLines_phrases inner)).append (.fixed _)
  | .unclosed _ => .nil
  | .unmatched _ => .nil

/-- So do phrases one after the other. -/
theorem endsLines_phrases :
    ∀ phrases : List Phrase, EndsLines (markPhrases phrases) (textOfPhrases (hardenPhrases phrases))
  | [] => .nil
  | phrase :: phrases => by
    rw [markPhrases, hardenPhrases, textOfPhrases]
    exact (endsLines_phrase phrase).append (endsLines_phrases phrases)

end

/-- **Hard breaks add commands that end lines to a running text**, in front of line feeds outside of
its formulas. -/
theorem endsLines_renderInlines (children : List Token) :
    EndsLines (markInlines children) (renderInlines (children.map Token.hardened)).text := by
  rw [markInlines, renderInlines_eq, text_renderPhrases, arrange_hardened]
  exact endsLines_phrases (arrange children)

/-! ## What a running text needs and how it is measured -/

/-- What a marker needs comes on top of what stands inside, whatever its text is. -/
theorem features_decorate_congr (opener : Token) {inner other : Fragment}
    (h : inner.features = other.features) :
    (decorate opener inner).features = (decorate opener other).features := by
  rw [decorate, decorate]
  split
  · exact h
  split
  · exact h
  split
  · exact congrArg (Features.union · _) h
  · exact congrArg (Features.union · _) h

mutual

/-- A phrase with hard breaks needs what it needs with soft ones. -/
theorem features_hardened :
    ∀ phrase : Phrase, phrase.hardened.render.features = phrase.render.features
  | .run children => by
    rw [Phrase.hardened, Phrase.render, Phrase.render]
    exact congrArg textFeatures (runSource_hardened children)
  | .leaf _ => by rw [Phrase.hardened]
  | .marked opener _ inner => by
    rw [Phrase.hardened, Phrase.render, Phrase.render]
    exact features_decorate_congr opener (features_hardenPhrases inner)
  | .unclosed _ => by rw [Phrase.hardened]
  | .unmatched _ => by rw [Phrase.hardened]

/-- So do phrases one after the other. -/
theorem features_hardenPhrases :
    ∀ phrases : List Phrase,
      (renderPhrases (hardenPhrases phrases)).features = (renderPhrases phrases).features
  | [] => by rw [hardenPhrases]
  | phrase :: phrases => by
    rw [hardenPhrases, renderPhrases, renderPhrases, Fragment.features_append,
      Fragment.features_append, features_hardened phrase, features_hardenPhrases phrases]

end

/-- A running text needs the same with hard breaks. -/
theorem features_renderInlines_hardened (children : List Token) :
    (renderInlines (children.map Token.hardened)).features = (renderInlines children).features := by
  rw [renderInlines_eq, arrange_hardened, features_hardenPhrases, ← renderInlines_eq]

/-- Breaks are not measured. -/
theorem plainText_hardened (children : List Token) :
    plainText (children.map Token.hardened) = plainText children := by
  have hchild : ∀ t : Token,
      (if t.hardened.kind = "text" || t.hardened.kind = "code_inline" then t.hardened.content
        else []) = if t.kind = "text" || t.kind = "code_inline" then t.content else [] := by
    intro t
    rw [Token.hardened]
    split
    · rename_i hkind
      rw [hkind]
      rfl
    · rfl
  rw [plainText, List.flatMap_map]
  exact congrArg (children.flatMap ·) (funext hchild)

end MarkTex.Body
