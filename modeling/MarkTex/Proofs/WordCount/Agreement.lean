import MarkTex.Proofs.Body.Marker
import MarkTex.Proofs.Math.Span
import MarkTex.WordCount

/-!
# Formulas that are emitted and formulas that are not counted

Running text is searched for formulas run by run, and the text that is counted is searched as a
whole. So the two take different things for formulas if a formula of the whole text reaches over the
end of a run, such as a dollar in front of emphasised text with a dollar behind it
(`not_emittedFormulas_eq`). They agree in every other case, in what the formulas are and in where
they stand (`emittedSpans_eq_iff`).

## Shape of the proof

What is counted of a text is the sources of its runs, with a space where a run has a line feed for a
break (`countedText_eq`): all other children add nothing. Breaks are no dollars, so the formulas are
the same for both, and the sources of the runs are pieces of one text.
-/

namespace MarkTex.WordCount

open Body (Phrase)
open Markdown (Token)

/-! ## The two readings of a running text -/

mutual

/-- The sources of the runs in a phrase. -/
def sourcesOfPhrase : Phrase → List Text
  | .run children => [Body.runSource children]
  | .leaf _ => []
  | .marked _ _ inner => sourcesOfPhrases inner
  | .unclosed _ => []
  | .unmatched _ => []

/-- The sources of the runs in phrases, in order. -/
def sourcesOfPhrases : List Phrase → List Text
  | [] => []
  | phrase :: phrases => sourcesOfPhrase phrase ++ sourcesOfPhrases phrases

end

/-- The sources of the runs of a running text. -/
def sources (children : List Token) : List Text :=
  sourcesOfPhrases (Body.arrange children)

/-- The formulas that are emitted as they are: those of each run. -/
def emittedFormulas (children : List Token) : List Text :=
  (sources children).flatMap Text.formulas

/-- Where the formulas that are emitted start and end in the sources of all runs. -/
def emittedSpans (children : List Token) : List (Nat × Nat) :=
  Text.spansOfPieces 0 (sources children)

/-- The text that is searched for formulas before it is counted. -/
def countedText (children : List Token) : Text :=
  children.flatMap childText

/-- The formulas that are not counted. -/
def droppedFormulas (children : List Token) : List Text :=
  Text.formulas (countedText children)

/-- Where the formulas that are not counted start and end. -/
def droppedSpans (children : List Token) : List (Nat × Nat) :=
  Text.spans 0 (countedText children)

/-- A character, where a line feed is read as a space. -/
def breakAsSpace (c : Char) : Char :=
  if c = '\n' then ' ' else c

/-- Whether a child is of a kind that is known: a text or a break, code, an image, raw markup, or a
marker, which has no content. -/
def isKnown (child : Token) : Bool :=
  Body.isRunKind child.kind ||
    ["code_inline", "image", "html_inline"].contains child.kind ||
    ((Body.closerOf? child.kind).isSome || Body.isCloser child.kind) && child.content.isEmpty

/-! ## What is counted comes from runs -/

/-- A child that is in no run adds nothing to what is counted. -/
theorem childText_of_not_run {child : Token} (hknown : isKnown child = true)
    (hrun : Body.isRunKind child.kind = false) : childText child = [] := by
  rw [isKnown, hrun, Bool.false_or, Bool.or_eq_true] at hknown
  rw [Body.isRunKind, Bool.or_eq_false_iff, Bool.or_eq_false_iff] at hrun
  rw [childText]
  rcases hknown with hskipped | hmarker
  · simp only [List.contains_cons, List.contains_nil, Bool.or_false, Bool.or_eq_true, beq_iff_eq]
      at hskipped
    rcases hskipped with h | h | h <;> simp [h]
  · rw [Bool.and_eq_true, List.isEmpty_iff] at hmarker
    rw [hmarker.2, hrun.1.2, hrun.2]
    simp

/-- What is counted of a run is its source, except for the breaks. -/
theorem flatMap_childText_run {run : List Token}
    (h : ∀ child ∈ run, Body.isRunKind child.kind = true) :
    (run.flatMap childText).map breakAsSpace = (Body.runSource run).map breakAsSpace := by
  induction run with
  | nil => rfl
  | cons child run ih =>
    rw [List.forall_mem_cons] at h
    have hchild : (childText child).map breakAsSpace =
        (if child.kind = "text" then child.content else ['\n']).map breakAsSpace := by
      have hkind := h.1
      rw [Body.isRunKind, Bool.or_eq_true, Bool.or_eq_true] at hkind
      rcases hkind with (hkind | hkind) | hkind <;>
        simp [childText, of_decide_eq_true hkind, breakAsSpace]
    rw [List.flatMap_cons, List.map_append, ih h.2, hchild, Body.runSource, Body.runSource,
      List.flatMap_cons, List.map_append]

/-- A child that is no text and no break adds nothing. -/
theorem childText_singleton {child : Token} (hknown : ∀ other ∈ [child], isKnown other = true)
    (hrun : Body.isRunKind child.kind = false) : [child].flatMap childText = [] := by
  rw [List.flatMap_singleton]
  exact childText_of_not_run (hknown child (List.mem_singleton_self child)) hrun

mutual

/-- What is counted of a phrase is its sources, with spaces for breaks. -/
theorem childText_phrase {innermost : Option Token} :
    ∀ phrase : Phrase, phrase.Fits innermost →
      (∀ child ∈ phrase.children, isKnown child = true) →
      (phrase.children.flatMap childText).map breakAsSpace =
        (sourcesOfPhrase phrase).flatten.map breakAsSpace
  | .run children, hfits, hknown => by
    rw [Phrase.Fits] at hfits
    rw [Phrase.children, sourcesOfPhrase, flatMap_childText_run hfits.2, List.flatten_singleton]
  | .leaf child, hfits, hknown => by
    rw [Phrase.Fits, Body.isLeafKind] at hfits
    rw [Phrase.children] at hknown ⊢
    rw [childText_singleton hknown (by simp_all), sourcesOfPhrase]
    rfl
  | .marked opener closer inner, hfits, hknown => by
    rw [Phrase.Fits] at hfits
    -- markers add nothing, so what is counted is what they enclose
    obtain ⟨hopener, hcloser, -, -⟩ := Body.kinds_of_closerOf? hfits.1
    rw [Phrase.children, List.forall_mem_append, List.forall_mem_cons] at hknown
    rw [Phrase.children, List.flatMap_append, List.flatMap_cons,
      childText_of_not_run hknown.1.1 hopener, childText_singleton hknown.2 hcloser,
      List.nil_append, List.append_nil, sourcesOfPhrase]
    exact childText_phrases inner hfits.2.2 hknown.1.2
  | .unclosed opener, hfits, hknown => by
    rw [Phrase.Fits] at hfits
    obtain ⟨closer, hcloser⟩ := Option.isSome_iff_exists.1 hfits
    rw [Phrase.children] at hknown ⊢
    rw [childText_singleton hknown (Body.kinds_of_closerOf? hcloser).1, sourcesOfPhrase]
    rfl
  | .unmatched closer, hfits, hknown => by
    rw [Phrase.Fits] at hfits
    rw [Phrase.children] at hknown ⊢
    rw [childText_singleton hknown (Body.kinds_of_isCloser hfits.1).1, sourcesOfPhrase]
    rfl

/-- What is counted of phrases is their sources, with spaces for breaks. -/
theorem childText_phrases {innermost : Option Token} :
    ∀ phrases : List Phrase, Body.PhrasesFit innermost phrases →
      (∀ child ∈ Body.childrenOfPhrases phrases, isKnown child = true) →
      ((Body.childrenOfPhrases phrases).flatMap childText).map breakAsSpace =
        (sourcesOfPhrases phrases).flatten.map breakAsSpace
  | [], _, _ => by
    rw [Body.childrenOfPhrases, sourcesOfPhrases]
    rfl
  | phrase :: phrases, hfits, hknown => by
    rw [Body.PhrasesFit] at hfits
    rw [Body.childrenOfPhrases, List.forall_mem_append] at hknown
    rw [Body.childrenOfPhrases, sourcesOfPhrases, List.flatMap_append, List.map_append,
      List.flatten_append, List.map_append, childText_phrase phrase hfits.1 hknown.1,
      childText_phrases phrases hfits.2.2 hknown.2]

end

/-- The text that is counted is the sources of the runs, except for the breaks. -/
theorem countedText_eq {children : List Token} (h : ∀ child ∈ children, isKnown child = true) :
    (countedText children).map breakAsSpace = (sources children).flatten.map breakAsSpace := by
  have hchildren := Body.childrenOfPhrases_arrange children
  have hphrases := childText_phrases (Body.arrange children) (Body.stacked_arrange children)
    (by rwa [hchildren])
  rwa [hchildren] at hphrases

/-! ## Where the two agree -/

/-- A break is no dollar, and neither is the space for it. -/
theorem breakAsSpace_dollar (c : Char) : breakAsSpace c = '$' ↔ c = '$' := by
  rw [breakAsSpace]
  split
  · rename_i h
    rw [h]
    decide
  · rfl

/-- **The formulas that are emitted are those that are not counted, unless one reaches over the end
of a run.** They stand at the same places of the text exactly if no formula of the whole text does,
and then they are the same formulas, with their breaks read as spaces. -/
theorem emittedSpans_eq_iff {children : List Token}
    (h : ∀ child ∈ children, isKnown child = true) :
    (emittedSpans children = droppedSpans children ↔
      ∀ span ∈ droppedSpans children, ∀ border ∈ Text.borders 0 (sources children),
        ¬ (span.1 < border ∧ border < span.2)) ∧
    (emittedSpans children = droppedSpans children →
      (emittedFormulas children).map (List.map breakAsSpace) =
        (droppedFormulas children).map (List.map breakAsSpace)) := by
  -- breaks as spaces leave every dollar in its place
  have hspans : droppedSpans children = Text.spans 0 (sources children).flatten := by
    rw [droppedSpans, ← Text.spans_map breakAsSpace_dollar, countedText_eq h,
      Text.spans_map breakAsSpace_dollar]
  have hformulas : (droppedFormulas children).map (List.map breakAsSpace) =
      (Text.formulas (sources children).flatten).map (List.map breakAsSpace) := by
    rw [droppedFormulas, ← Text.formulas_map breakAsSpace_dollar, countedText_eq h,
      Text.formulas_map breakAsSpace_dollar]
  rw [hspans, hformulas]
  refine ⟨Text.spansOfPieces_eq_iff, fun hagree => ?_⟩
  rw [emittedFormulas, (Text.spansOfPieces_eq (Text.spansOfPieces_eq_iff.1 hagree)).2]

/-! ## A formula that reaches over the end of a run -/

/-- A dollar, emphasised text, and a formula. -/
def strayDollar : List Token :=
  [{ kind := "text", content := "5$ ".toList },
    { kind := "em_open" },
    { kind := "text", content := "x y".toList },
    { kind := "em_close" },
    { kind := "text", content := " $b$".toList }]

/-- The runs of the paragraph: in front of the emphasis, in it and behind it. -/
theorem sources_strayDollar :
    sources strayDollar = ["5$ ".toList, "x y".toList, " $b$".toList] := by
  let outer : Token := { kind := "text", content := "5$ ".toList }
  let inner : Token := { kind := "text", content := "x y".toList }
  let formula : Token := { kind := "text", content := " $b$".toList }
  -- the emphasis ends one run and starts another
  have hphrases : Body.arrange strayDollar =
      [.run [outer], .marked { kind := "em_open" } { kind := "em_close" } [.run [inner]],
        .run [formula]] := by
    simp [Body.arrange, Body.arrangeFrom, strayDollar, Body.isRunKind, Body.closerOf?,
      Body.isCloser, Body.closeRun, Body.leaveOpen, outer, inner, formula]
  have houter : Body.runSource [outer] = "5$ ".toList := by
    decide
  have hinner : Body.runSource [inner] = "x y".toList := by
    decide
  have hformula : Body.runSource [formula] = " $b$".toList := by
    decide
  rw [sources, hphrases]
  simp only [sourcesOfPhrases, sourcesOfPhrase, houter, hinner, hformula]
  rfl

/-- One formula is emitted, that of the last run. -/
theorem emittedFormulas_strayDollar : emittedFormulas strayDollar = ["$b$".toList] := by
  have hstray : Text.formulas "5$ ".toList = [] :=
    calc Text.formulas "5$ ".toList
      _ = Text.formulas "$ ".toList := Text.formulas_of_math?_none (c := '5') (by decide)
      _ = Text.formulas " ".toList := Text.formulas_of_math?_none (c := '$') (by decide)
      _ = [] := Text.formulas_of_not_mem (by decide)
  have hplain : Text.formulas "x y".toList = [] := Text.formulas_of_not_mem (by decide)
  have hformula : Text.formulas " $b$".toList = ["$b$".toList] :=
    calc Text.formulas " $b$".toList
      _ = Text.formulas "$b$".toList := Text.formulas_of_math?_none (c := ' ') (by decide)
      _ = "$b$".toList :: Text.formulas [] := Text.formulas_of_math? (by decide)
      _ = ["$b$".toList] := by rw [Text.formulas_nil]
  rw [emittedFormulas, sources_strayDollar]
  simp only [List.flatMap_cons, List.flatMap_nil, hstray, hplain, hformula]
  rfl

/-- Another one is dropped, over the emphasis. -/
theorem droppedFormulas_strayDollar : droppedFormulas strayDollar = ["$ x y $".toList] := by
  have htext : countedText strayDollar = "5$ x y $b$".toList := by
    decide
  calc droppedFormulas strayDollar
    _ = Text.formulas "5$ x y $b$".toList := by rw [droppedFormulas, htext]
    _ = Text.formulas "$ x y $b$".toList := Text.formulas_of_math?_none (c := '5') (by decide)
    _ = "$ x y $".toList :: Text.formulas "b$".toList := Text.formulas_of_math? (by decide)
    _ = "$ x y $".toList :: Text.formulas "$".toList := by
      rw [← Text.formulas_of_math?_none (c := 'b') (r := "$".toList) (by decide)]
      rfl
    _ = "$ x y $".toList :: Text.formulas [] := by
      rw [← Text.formulas_of_math?_none (c := '$') (r := []) (by decide)]
      rfl
    _ = ["$ x y $".toList] := by rw [Text.formulas_nil]

/-- All children of the paragraph are of known kinds. -/
theorem isKnown_strayDollar : ∀ child ∈ strayDollar, isKnown child = true := by
  decide

/-- Words that are typeset as ordinary text are left out of the count, and a formula is counted. -/
theorem not_emittedFormulas_eq :
    ¬ ∀ children : List Token, (∀ child ∈ children, isKnown child = true) →
      (emittedFormulas children).map (List.map breakAsSpace) =
        (droppedFormulas children).map (List.map breakAsSpace) := by
  intro h
  have hstray := h strayDollar isKnown_strayDollar
  rw [emittedFormulas_strayDollar, droppedFormulas_strayDollar] at hstray
  exact absurd hstray (by decide)

/-- The condition for a paragraph with a stray dollar in front of emphasised text. -/
theorem emittedSpans_strayDollar :
    (∀ child ∈ strayDollar, isKnown child = true) ∧
    (emittedSpans strayDollar = droppedSpans strayDollar ↔
      ∀ span ∈ droppedSpans strayDollar, ∀ border ∈ Text.borders 0 (sources strayDollar),
        ¬ (span.1 < border ∧ border < span.2)) ∧
    (emittedSpans strayDollar = droppedSpans strayDollar →
      (emittedFormulas strayDollar).map (List.map breakAsSpace) =
        (droppedFormulas strayDollar).map (List.map breakAsSpace)) :=
  ⟨isKnown_strayDollar, emittedSpans_eq_iff isKnown_strayDollar⟩

end MarkTex.WordCount
