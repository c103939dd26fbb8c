import MarkTex.Body.Inline
import MarkTex.Proofs.Body.Fragment

/-!
# Phrases of a running text

The children of an inline token are read into phrases: runs, leaves, and what markers enclose. The
phrases are a tree, so what a running text emits can be told by recursion on them.

## Shape of the proof

`arrangeFrom` goes through the children as `renderChildren` does and holds phrases where that holds
fragments. What is held always corresponds, so the two come out the same (`renderInlines_eq`).
-/

namespace MarkTex.Body

open Markdown (Token)

/-- A phrase of a running text. -/
inductive Phrase where
  /-- A longest run of texts and line breaks. -/
  | run (children : List Token)
  /-- A child that is neither part of a run nor a marker. -/
  | leaf (child : Token)
  /-- What stands between an opening marker and the one that closes it. -/
  | marked (opener closer : Token) (inner : List Phrase)
  /-- An opening marker that nothing closes. -/
  | unclosed (opener : Token)
  /-- A closing marker that matches nothing. -/
  | unmatched (closer : Token)

/-! ## Emitting phrases -/

/-- A line feed is emitted alone, or behind the command that ends a line. -/
theorem emitBreak_cases (breaks : List Bool) :
    (emitBreak breaks).1 = ['\n'] ∨ (emitBreak breaks).1 = ['\\', '\\', '\n'] := by
  cases breaks with
  | nil => exact .inl rfl
  | cons hard breaks =>
    cases hard with
    | false => exact .inl rfl
    | true => exact .inr rfl

mutual

/-- A phrase as it is emitted. -/
def Phrase.render : Phrase → Fragment
  | .run children => renderRun children
  | .leaf child => renderLeaf child
  | .marked opener _ inner => decorate opener (renderPhrases inner)
  | .unclosed _ => {}
  | .unmatched closer => .ofNotice (unmatchedMarker closer.kind)

/-- Phrases as they are emitted, one after the other. -/
def renderPhrases : List Phrase → Fragment
  | [] => {}
  | phrase :: phrases => phrase.render ++ renderPhrases phrases

end

theorem renderPhrases_append (phrases others : List Phrase) :
    renderPhrases (phrases ++ others) = renderPhrases phrases ++ renderPhrases others := by
  induction phrases with
  | nil => rw [List.nil_append, renderPhrases, Fragment.empty_append]
  | cons phrase phrases ih =>
    rw [List.cons_append, renderPhrases, ih, renderPhrases, Fragment.append_assoc]

theorem renderPhrases_singleton (phrase : Phrase) : renderPhrases [phrase] = phrase.render := by
  rw [renderPhrases, renderPhrases, Fragment.append_empty]

/-- One more phrase is emitted behind the others. -/
theorem renderPhrases_concat (phrases : List Phrase) (phrase : Phrase) :
    renderPhrases (phrases ++ [phrase]) = renderPhrases phrases ++ phrase.render := by
  rw [renderPhrases_append, renderPhrases_singleton]

/-! ## Reading children into phrases -/

/-- An opening marker that may still be closed, and the phrases before it since the marker around
it. -/
structure OpenMarker where
  opener : Token
  before : List Phrase

/-- The run that was read, unless there is none. -/
def closeRun (run : List Token) : List Phrase :=
  if run.isEmpty then [] else [.run run]

/-- All phrases when markers are still open at the end. -/
def leaveOpen (inner : List Phrase) : List OpenMarker → List Phrase
  | [] => inner
  | marker :: markers => leaveOpen (marker.before ++ .unclosed marker.opener :: inner) markers

/-- Reads the children that are left into phrases. `markers` are the open markers, innermost first,
`done` are the phrases since the innermost one, and `run` is the run that is being read. -/
def arrangeFrom (markers : List OpenMarker) (done : List Phrase) (run : List Token) :
    List Token → List Phrase
  | [] => leaveOpen (done ++ closeRun run) markers
  | child :: rest =>
    if isRunKind child.kind then arrangeFrom markers done (run ++ [child]) rest
    else
      let done := done ++ closeRun run
      if (closerOf? child.kind).isSome then arrangeFrom (⟨child, done⟩ :: markers) [] [] rest
      else if isCloser child.kind then
        match markers with
        | marker :: outer =>
          if closerOf? marker.opener.kind = some child.kind then
            arrangeFrom outer (marker.before ++ [.marked marker.opener child done]) [] rest
          else arrangeFrom markers (done ++ [.unmatched child]) [] rest
        | [] => arrangeFrom [] (done ++ [.unmatched child]) [] rest
      else arrangeFrom markers (done ++ [.leaf child]) [] rest

/-- The phrases of a list of children. -/
def arrange (children : List Token) : List Phrase :=
  arrangeFrom [] [] [] children

/-! ## Emitting what was read -/

/-- The open marker as it is held while fragments are put together. -/
def OpenMarker.frame (marker : OpenMarker) : Frame where
  opener := marker.opener
  before := renderPhrases marker.before

/-- A run is emitted where it is closed. -/
theorem renderPhrases_closeRun (run : List Token) :
    renderPhrases (closeRun run) = flushRun run := by
  rw [closeRun, flushRun]
  split
  · rfl
  · rw [renderPhrases_singleton, Phrase.render]

/-- Markers that stay open are emitted as their frames are unwound: without decoration. -/
theorem renderPhrases_leaveOpen (inner : List Phrase) (markers : List OpenMarker) :
    renderPhrases (leaveOpen inner markers) =
      unwind (renderPhrases inner) (markers.map OpenMarker.frame) := by
  induction markers generalizing inner with
  | nil => rfl
  | cons marker markers ih =>
    rw [leaveOpen, ih, List.map_cons, unwind, renderPhrases_append, renderPhrases, Phrase.render,
      Fragment.empty_append]
    rfl

/-- What is held in front of the children that are left does not matter to how they are read. -/
theorem renderChildren_eq (markers : List OpenMarker) (done : List Phrase)
    (run children : List Token) :
    renderChildren (markers.map OpenMarker.frame) (renderPhrases done) run children =
      renderPhrases (arrangeFrom markers done run children) := by
  induction children generalizing markers done run with
  | nil =>
    rw [renderChildren, arrangeFrom, renderPhrases_leaveOpen, renderPhrases_append,
      renderPhrases_closeRun]
  | cons child rest ih =>
    have hdone : renderPhrases done ++ flushRun run = renderPhrases (done ++ closeRun run) := by
      rw [renderPhrases_append, renderPhrases_closeRun]
    rw [renderChildren, arrangeFrom]
    simp only [hdone]
    -- the kind of the child decides on both sides; a closing marker also looks at what is held
    by_cases hrun : isRunKind child.kind = true
    · rw [if_pos hrun, if_pos hrun, ih]
    rw [if_neg hrun, if_neg hrun]
    by_cases hopener : (closerOf? child.kind).isSome = true
    · rw [if_pos hopener, if_pos hopener, ← ih]
      rfl
    rw [if_neg hopener, if_neg hopener]
    by_cases hcloser : isCloser child.kind = true
    · rw [if_pos hcloser, if_pos hcloser]
      have hunmatched : renderPhrases (done ++ closeRun run) ++
            .ofNotice (unmatchedMarker child.kind) =
          renderPhrases (done ++ closeRun run ++ [.unmatched child]) := by
        rw [renderPhrases_concat, Phrase.render]
      cases markers with
      | nil =>
        simp only [List.map_nil]
        rw [hunmatched, ← ih]
        rfl
      | cons marker outer =>
        simp only [List.map_cons]
        by_cases hmatch : closerOf? marker.opener.kind = some child.kind
        · have hmarked : marker.frame.before ++
                decorate marker.frame.opener (renderPhrases (done ++ closeRun run)) =
              renderPhrases
                (marker.before ++ [.marked marker.opener child (done ++ closeRun run)]) := by
            rw [renderPhrases_concat, Phrase.render]
            rfl
          rw [if_pos hmatch, hmarked, ← ih]
          exact if_pos hmatch
        · rw [if_neg hmatch, hunmatched, ← ih]
          exact if_neg hmatch
    · rw [if_neg hcloser, if_neg hcloser, ← ih, renderPhrases_concat, Phrase.render]

/-- **A running text is emitted as its phrases are**, whether its markers match or not. -/
theorem renderInlines_eq (children : List Token) :
    renderInlines children = renderPhrases (arrange children) :=
  renderChildren_eq [] [] [] children

end MarkTex.Body
