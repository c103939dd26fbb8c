import Mathlib.Data.List.Forall2
import Mathlib.Logic.Relation
import MarkTex.Proofs.Body.BreakKind
import MarkTex.Proofs.Body.Fragment
import MarkTex.WordCount

/-!
# Texts cut in other places

The same running text may come as one text child or as several, also with empty ones in between.
Where it is cut does not matter: it is emitted alike, with the same needs and messages, its cells
are measured alike, and the same text is counted (`alike_of_sameUpToCuts`). So a run without hard
breaks is emitted as its source is escaped around formulas.

## Shape of the proof

Children that are cut in one other place differ in a piece of a run, and the two pieces have one
source and the same breaks (`Recut.exists_sameRun`). Nothing else of a run is ever read
(`renderChildren_congr`), and what stands in front of the piece is gone through in the same way
(`renderChildren_append_congr`). From one cut to any number of them is an induction on the cuts.
-/

namespace MarkTex.Body

open Markdown (Token)

/-! ## Cuts -/

/-- One more cut: a text child is cut in two, or an empty text child is put between others. It need
not stand next to a text or a break. -/
inductive Recut : List Token → List Token → Prop where
  | split (before after : List Token) {whole left right : Token} (hwhole : whole.kind = "text")
    (hleft : left.kind = "text") (hright : right.kind = "text")
    (hcontent : whole.content = left.content ++ right.content) :
    Recut (before ++ whole :: after) (before ++ left :: right :: after)
  | insert (before after : List Token) {empty : Token} (hkind : empty.kind = "text")
    (hcontent : empty.content = []) :
    Recut (before ++ after) (before ++ empty :: after)

/-- Children that are the same up to cuts: any number of cuts are made and undone. -/
def SameUpToCuts : List Token → List Token → Prop :=
  Relation.EqvGen Recut

/-! ## Pieces of a run -/

theorem runSource_append (run others : List Token) :
    runSource (run ++ others) = runSource run ++ runSource others :=
  List.flatMap_append

theorem runBreaks_append (run others : List Token) :
    runBreaks (run ++ others) = runBreaks run ++ runBreaks others := by
  rw [runBreaks, List.filter_append, List.map_append]
  rfl

theorem plainText_append (children others : List Token) :
    plainText (children ++ others) = plainText children ++ plainText others :=
  List.flatMap_append

/-- Two pieces of a run that hold the same text and the same breaks. -/
structure SameRun (piece other : List Token) : Prop where
  run : ∀ child ∈ piece ++ other, isRunKind child.kind = true
  source : runSource piece = runSource other
  breaks : runBreaks piece = runBreaks other
  plain : plainText piece = plainText other
  counted : piece.flatMap WordCount.childText = other.flatMap WordCount.childText

/-- A text and its two parts are the same piece of a run. -/
theorem sameRun_split {whole left right : Token} (hwhole : whole.kind = "text")
    (hleft : left.kind = "text") (hright : right.kind = "text")
    (hcontent : whole.content = left.content ++ right.content) :
    SameRun [whole] [left, right] where
  run := by simp [hwhole, hleft, hright, isRunKind]
  source := by simp [runSource, hwhole, hleft, hright, hcontent]
  breaks := by simp [runBreaks, hwhole, hleft, hright]
  plain := by simp [plainText, hwhole, hleft, hright, hcontent]
  counted := by simp [WordCount.childText, hwhole, hleft, hright, hcontent]

/-- An empty text is the same as no child. -/
theorem sameRun_empty {empty : Token} (hkind : empty.kind = "text")
    (hcontent : empty.content = []) : SameRun [] [empty] where
  run := by simp [hkind, isRunKind]
  source := by simp [runSource, hkind, hcontent]
  breaks := by simp [runBreaks, hkind]
  plain := by simp [plainText, hkind, hcontent]
  counted := by simp [WordCount.childText, hkind, hcontent]

/-- One more cut changes a piece of a run for another that is the same. -/
theorem Recut.exists_sameRun {children others : List Token} (h : Recut children others) :
    ∃ before piece other after, children = before ++ (piece ++ after) ∧
      others = before ++ (other ++ after) ∧ SameRun piece other := by
  cases h with
  | split before after hwhole hleft hright hcontent =>
    exact ⟨before, _, _, after, rfl, rfl, sameRun_split hwhole hleft hright hcontent⟩
  | insert before after hkind hcontent =>
    exact ⟨before, _, _, after, rfl, rfl, sameRun_empty hkind hcontent⟩

/-! ## Emitting -/

/-- A run of no children is emitted as nothing, so runs need not be told from none. -/
theorem flushRun_eq (run : List Token) : flushRun run = renderRun run := by
  rw [flushRun]
  split
  · rename_i hrun
    rw [List.isEmpty_iff.1 hrun]
    simp [renderRun, runSource, runBreaks, Text.segments_nil, textFeatures, Text.hasIdeograph,
      Text.hasMath, emitSegments, Fragment.needing]
  · rfl

/-- Nothing is read of a run but its source and its breaks. -/
theorem renderRun_congr {run other : List Token} (hsource : runSource run = runSource other)
    (hbreaks : runBreaks run = runBreaks other) : renderRun run = renderRun other := by
  rw [renderRun, renderRun, hsource, hbreaks]

/-- Children that are part of a run are put to the run that is being read. -/
theorem renderChildren_run {children : List Token}
    (h : ∀ child ∈ children, isRunKind child.kind = true) (frames : List Frame) (done : Fragment)
    (run rest : List Token) :
    renderChildren frames done run (children ++ rest) =
      renderChildren frames done (run ++ children) rest := by
  induction children generalizing run with
  | nil => rw [List.nil_append, List.append_nil]
  | cons child children ih =>
    rw [List.forall_mem_cons] at h
    rw [List.cons_append, renderChildren, if_pos h.1, ih h.2, List.append_assoc]
    rfl

/-- The run that is being read may be changed for one of the same source and breaks. -/
theorem renderChildren_congr {run other : List Token} (hsource : runSource run = runSource other)
    (hbreaks : runBreaks run = runBreaks other) (frames : List Frame) (done : Fragment)
    (rest : List Token) :
    renderChildren frames done run rest = renderChildren frames done other rest := by
  have hflush : flushRun run = flushRun other := by
    rw [flushRun_eq, flushRun_eq, renderRun_congr hsource hbreaks]
  induction rest generalizing run other with
  | nil => rw [renderChildren, renderChildren, hflush]
  | cons child rest ih =>
    rw [renderChildren, renderChildren, hflush]
    split
    · -- the run goes on, and stays the same with one more child
      have hsource' : runSource (run ++ [child]) = runSource (other ++ [child]) := by
        rw [runSource_append, runSource_append, hsource]
      have hbreaks' : runBreaks (run ++ [child]) = runBreaks (other ++ [child]) := by
        rw [runBreaks_append, runBreaks_append, hbreaks]
      refine ih hsource' hbreaks' ?_
      rw [flushRun_eq, flushRun_eq, renderRun_congr hsource' hbreaks']
    · rfl

/-- Children that go on alike in every state are emitted alike behind any others. -/
theorem renderChildren_append_congr {rest others : List Token}
    (h : ∀ frames done run,
      renderChildren frames done run rest = renderChildren frames done run others)
    (before : List Token) (frames : List Frame) (done : Fragment) (run : List Token) :
    renderChildren frames done run (before ++ rest) =
      renderChildren frames done run (before ++ others) := by
  induction before generalizing frames done run with
  | nil => exact h frames done run
  | cons child before ih =>
    rw [List.cons_append, List.cons_append, renderChildren, renderChildren]
    simp only [ih]

/-- A piece of a run may be changed for one that is the same, whatever stands around it. -/
theorem SameRun.renderInlines_eq {piece other : List Token} (h : SameRun piece other)
    (before after : List Token) :
    renderInlines (before ++ (piece ++ after)) = renderInlines (before ++ (other ++ after)) := by
  obtain ⟨hpiece, hother⟩ := List.forall_mem_append.1 h.run
  refine renderChildren_append_congr (fun frames done run => ?_) before [] {} []
  rw [renderChildren_run hpiece, renderChildren_run hother]
  refine renderChildren_congr ?_ ?_ frames done after
  · rw [runSource_append, runSource_append, h.source]
  · rw [runBreaks_append, runBreaks_append, h.breaks]

/-! ## Everything that reads children -/

/-- Children that are read alike: when they are emitted, when a cell is measured, and when words are
counted. -/
structure Alike (children others : List Token) : Prop where
  rendered : renderInlines children = renderInlines others
  plain : plainText children = plainText others
  counted : children.flatMap WordCount.childText = others.flatMap WordCount.childText

/-- Children that are cut in one other place are alike. -/
theorem Recut.alike {children others : List Token} (h : Recut children others) :
    Alike children others := by
  obtain ⟨before, piece, other, after, rfl, rfl, hsame⟩ := h.exists_sameRun
  refine ⟨hsame.renderInlines_eq before after, ?_, ?_⟩
  · rw [plainText_append, plainText_append, plainText_append, plainText_append, hsame.plain]
  · rw [List.flatMap_append, List.flatMap_append, List.flatMap_append, List.flatMap_append,
      hsame.counted]

/-- Children that differ in nothing but where their texts are cut are alike. -/
theorem SameUpToCuts.alike {children others : List Token} (h : SameUpToCuts children others) :
    Alike children others := by
  induction h with
  | rel _ _ hcut => exact hcut.alike
  | refl _ => exact ⟨rfl, rfl, rfl⟩
  | symm _ _ _ ih => exact ⟨ih.rendered.symm, ih.plain.symm, ih.counted.symm⟩
  | trans _ _ _ _ _ ih ih' =>
    exact ⟨ih.rendered.trans ih'.rendered, ih.plain.trans ih'.plain, ih.counted.trans ih'.counted⟩

/-- Two tokens of one kind whose children are the same up to cuts. -/
def TokenUpToCuts (t u : Token) : Prop :=
  t.kind = u.kind ∧ SameUpToCuts t.inlines u.inlines

/-- Tokens that differ in nothing but cuts are collected alike. -/
theorem collectFrom_upToCuts {tokens others : List Token}
    (h : List.Forall₂ TokenUpToCuts tokens others) (depth : Nat) :
    WordCount.collectFrom depth tokens = WordCount.collectFrom depth others := by
  induction h generalizing depth with
  | nil => rfl
  | cons hfirst _ ih =>
    obtain ⟨hkind, hcuts⟩ := hfirst
    rw [WordCount.collectFrom, WordCount.collectFrom, WordCount.inlineText, WordCount.inlineText,
      hkind, hcuts.alike.counted]
    simp only [ih]

/-! ## Runs without hard breaks -/

/-- Segments whose signs are all plain are set as they are escaped. -/
theorem setSegments_map_plain (segments : List Segment) :
    setSegments segments ((segments.flatMap Segment.text).map .plain) =
      segments.flatMap Tex.escapeSegment := by
  induction segments with
  | nil => rfl
  | cons segment rest ih =>
    have hlength (t : Text) : (t.map Sign.plain).length = t.length := List.length_map _
    rw [List.flatMap_cons, List.flatMap_cons, List.map_append]
    -- a formula is kept and its signs are left out; plain text is set sign by sign
    cases segment with
    | math t =>
      rw [setSegments, Segment.text, List.drop_left' (hlength t), ih]
      rfl
    | plain t =>
      rw [setSegments, Segment.text, List.take_left' (hlength t), List.drop_left' (hlength t), ih,
        List.flatMap_map]
      rfl

/-- Children that are all part of a run are emitted as one run. -/
theorem renderInlines_run {run : List Token} (h : ∀ child ∈ run, isRunKind child.kind = true) :
    renderInlines run = renderRun run := by
  have hrun := renderChildren_run h [] {} [] []
  rw [List.append_nil, List.nil_append] at hrun
  rw [renderInlines, hrun, renderChildren, unwind, flushRun_eq, Fragment.empty_append]

/-- A run without hard breaks is emitted as its source is escaped around formulas. -/
theorem text_renderInlines_soft {run : List Token}
    (h : ∀ child ∈ run, child.kind = "text" ∨ child.kind = "softbreak") :
    (renderInlines run).text = Tex.escapeAroundMath (runSource run) := by
  have hrun : ∀ child ∈ run, isRunKind child.kind = true := by
    intro child hchild
    rcases h child hchild with hkind | hkind <;> simp [isRunKind, hkind]
  have hsoft : ∀ child ∈ run, child.kind ≠ "hardbreak" := by
    intro child hchild
    rcases h child hchild with hkind | hkind <;> simp [hkind]
  have hsegments := setSegments_map_plain (Text.segments (runSource run))
  rw [Text.flatMap_text_segments] at hsegments
  rw [renderInlines_run hrun, text_renderRun, countedSigns_of_soft hsoft,
    sourceSigns_of_soft hsoft, hsegments, Tex.escapeAroundMath]

/-- **It does not matter where texts are cut.** Children that are the same up to cuts are emitted as
the same text with the same needs and messages, their cells are measured alike, and the same text is
counted of them, in each inline token and in a whole document. So a run without hard breaks is
emitted as its source is escaped around formulas, wherever it is cut. -/
theorem alike_of_sameUpToCuts :
    (∀ children others, SameUpToCuts children others →
      renderInlines children = renderInlines others ∧ plainText children = plainText others) ∧
    (∀ t u : Token, SameUpToCuts t.inlines u.inlines →
      WordCount.inlineText t = WordCount.inlineText u) ∧
    (∀ tokens others, List.Forall₂ TokenUpToCuts tokens others →
      WordCount.collect tokens = WordCount.collect others) ∧
    ∀ run : List Token, (∀ child ∈ run, child.kind = "text" ∨ child.kind = "softbreak") →
      (renderInlines run).text = Tex.escapeAroundMath (runSource run) := by
  refine ⟨fun children others h => ⟨h.alike.rendered, h.alike.plain⟩, fun t u h => ?_,
    fun tokens others h => ?_, fun run h => text_renderInlines_soft h⟩
  · rw [WordCount.inlineText, WordCount.inlineText, h.alike.counted]
  · rw [WordCount.collect, WordCount.collect, collectFrom_upToCuts h]

/-- A formula in one text. -/
def wholeFormula : List Token :=
  [{ kind := "text", content := "$x".toList ++ "y$".toList }]

/-- The formula in two texts with an empty one in between. -/
def cutFormula : List Token :=
  [{ kind := "text", content := "$x".toList }, { kind := "text" },
    { kind := "text", content := "y$".toList }]

/-- The formula in one piece and the one in pieces are the same up to cuts. -/
theorem sameUpToCuts_cutFormula : SameUpToCuts wholeFormula cutFormula :=
  .trans _ _ _ (.rel _ _ (.split [] [] rfl rfl rfl rfl))
    (.rel _ _ (.insert [{ kind := "text", content := "$x".toList }]
      [{ kind := "text", content := "y$".toList }] rfl rfl))

/-- A formula that comes in three pieces, one of them empty: it is still emitted as the one formula
that its source holds. -/
theorem alike_cutFormula :
    SameUpToCuts wholeFormula cutFormula ∧
      renderInlines wholeFormula = renderInlines cutFormula ∧
      plainText wholeFormula = plainText cutFormula ∧
      (∀ child ∈ cutFormula, child.kind = "text" ∨ child.kind = "softbreak") ∧
      (renderInlines cutFormula).text = Tex.escapeAroundMath "$xy$".toList := by
  have htexts : ∀ child ∈ cutFormula, child.kind = "text" ∨ child.kind = "softbreak" := by
    simp [cutFormula]
  obtain ⟨hrendered, hplain⟩ := alike_of_sameUpToCuts.1 _ _ sameUpToCuts_cutFormula
  exact ⟨sameUpToCuts_cutFormula, hrendered, hplain, htexts,
    alike_of_sameUpToCuts.2.2.2 cutFormula htexts⟩

end MarkTex.Body
