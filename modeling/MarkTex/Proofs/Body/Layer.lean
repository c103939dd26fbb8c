import MarkTex.Body.Inline
import MarkTex.Proofs.Body.Fragment

/-!
# The stack of open markers

While running text is emitted, what was emitted since each open marker lies on a stack, with what
was emitted outside of all markers at the bottom. Here the stack is looked up without knowing that
anything lies on it. Whatever the children are, something always does: emitting them in this way
meets no obstacle and gives the same running text (`walkInlines_eq`).

## Shape of the proof

The layers of a stack are the open markers together with what is emitted last (`layersOf`), so the
bottom layer is never taken off.
-/

namespace MarkTex.Body

open Markdown (Token)

/-- What would keep tokens from being emitted. -/
inductive Obstacle where
  /-- A token is looked up behind the last one. -/
  | noToken (position : Nat)
  /-- The top of an empty stack is looked up. -/
  | noLayer
  /-- The first of no words is looked up. -/
  | noWord
  /-- A sectioning command is looked up that there is not. -/
  | noCommand (position : Nat)
  /-- A block ends where it starts or before, or too far behind the last token. -/
  | noProgress (position next : Nat)
  /-- The blocks inside of a block start where it does or before. -/
  | noDescent (position start : Nat)
  /-- All steps have been made. -/
  | noSteps
  | fault (cause : Fault)
  deriving DecidableEq, Repr

/-- A layer of the stack: what was emitted since a marker was opened. The bottom layer has no
marker. -/
structure Layer where
  opener : Option Token
  emitted : Fragment

/-- The layer on top of the stack, and those below. -/
def takeOff : List Layer → Except Obstacle (Layer × List Layer)
  | [] => .error .noLayer
  | top :: below => .ok (top, below)

/-- Adds to what was emitted on top of the stack. -/
def putOn (stack : List Layer) (piece : Fragment) : Except Obstacle (List Layer) := do
  let (top, below) ← takeOff stack
  .ok ({ top with emitted := top.emitted ++ piece } :: below)

/-- Adds the run that was read, if there is one. -/
def putRun (stack : List Layer) (run : List Token) : Except Obstacle (List Layer) :=
  if run.isEmpty then .ok stack else putOn stack (renderRun run)

/-- Everything on the stack, each layer behind the one below it. -/
def collapse : List Layer → Except Obstacle Fragment
  | [] => .error .noLayer
  | [bottom] => .ok bottom.emitted
  | top :: next :: below =>
    collapse ({ next with emitted := next.emitted ++ top.emitted } :: below)
termination_by stack => stack.length

/-- Takes in a closing marker: it closes the marker on top of the stack or is left out. -/
def closeMarker (stack : List Layer) (child : Token) : Except Obstacle (List Layer) := do
  let (top, below) ← takeOff stack
  match top.opener with
  | some opener =>
    if closerOf? opener.kind = some child.kind then putOn below (decorate opener top.emitted)
    else putOn stack (.ofNotice (unmatchedMarker child.kind))
  | none => putOn stack (.ofNotice (unmatchedMarker child.kind))

/-- Takes in a child that is not part of a run. -/
def putChild (stack : List Layer) (child : Token) : Except Obstacle (List Layer) :=
  if (closerOf? child.kind).isSome then .ok (⟨some child, {}⟩ :: stack)
  else if isCloser child.kind then closeMarker stack child
  else putOn stack (renderLeaf child)

/-- Emits the children that are left, where `run` is the run that is being read. -/
def walkChildren (stack : List Layer) (run : List Token) : List Token → Except Obstacle Fragment
  | [] => do collapse (← putRun stack run)
  | child :: rest =>
    if isRunKind child.kind then walkChildren stack (run ++ [child]) rest
    else do
      let stack ← putRun stack run
      let stack ← putChild stack child
      walkChildren stack [] rest

/-- Emits a list of children. -/
def walkInlines (children : List Token) : Except Obstacle Fragment :=
  walkChildren [⟨none, {}⟩] [] children

theorem ok_bind {α β ε : Type} (value : α) (next : α → Except ε β) :
    Except.ok value >>= next = next value :=
  rfl

/-! ## The layers that are held -/

/-- The stack when `frames` are the open markers, innermost first, and `done` was emitted since the
innermost one. -/
def layersOf : List Frame → Fragment → List Layer
  | [], done => [⟨none, done⟩]
  | frame :: frames, done => ⟨some frame.opener, done⟩ :: layersOf frames frame.before

/-- A piece is put on top of the stack, which is never empty. -/
theorem putOn_layersOf (frames : List Frame) (done piece : Fragment) :
    putOn (layersOf frames done) piece = .ok (layersOf frames (done ++ piece)) := by
  cases frames with
  | nil => rfl
  | cons frame frames => rfl

/-- A run that ends is put on top of the stack. -/
theorem putRun_layersOf (frames : List Frame) (done : Fragment) (run : List Token) :
    putRun (layersOf frames done) run = .ok (layersOf frames (done ++ flushRun run)) := by
  rw [putRun, flushRun]
  split
  · rw [Fragment.append_empty]
  · exact putOn_layersOf frames done _

/-- When the children end, every layer is added to the one below. -/
theorem collapse_layersOf (frames : List Frame) (done : Fragment) :
    collapse (layersOf frames done) = .ok (unwind done frames) := by
  induction frames generalizing done with
  | nil => rw [layersOf, collapse, unwind]
  | cons frame frames ih =>
    have hbelow : ∃ next below, layersOf frames frame.before = next :: below ∧
        ({ next with emitted := next.emitted ++ done } :: below : List Layer) =
          layersOf frames (frame.before ++ done) := by
      cases frames with
      | nil => exact ⟨_, _, rfl, rfl⟩
      | cons other frames => exact ⟨_, _, rfl, rfl⟩
    obtain ⟨next, below, hlayers, hput⟩ := hbelow
    rw [layersOf, hlayers, collapse, hput, ih, unwind]

/-- Going through the children never finds the stack empty, and makes the fragments that are
emitted. -/
theorem walkChildren_layersOf (frames : List Frame) (done : Fragment) (run children : List Token) :
    walkChildren (layersOf frames done) run children =
      .ok (renderChildren frames done run children) := by
  induction children generalizing frames done run with
  | nil =>
    rw [walkChildren, putRun_layersOf, renderChildren]
    exact collapse_layersOf frames _
  | cons child rest ih =>
    rw [walkChildren, renderChildren]
    by_cases hrun : isRunKind child.kind = true
    · rw [if_pos hrun, if_pos hrun, ih]
    rw [if_neg hrun, if_neg hrun, putRun_layersOf, ok_bind, putChild]
    by_cases hopener : (closerOf? child.kind).isSome = true
    · rw [if_pos hopener, if_pos hopener]
      exact ih (⟨child, done ++ flushRun run⟩ :: frames) {} []
    rw [if_neg hopener, if_neg hopener]
    by_cases hcloser : isCloser child.kind = true
    · rw [if_pos hcloser, if_pos hcloser, closeMarker]
      -- with no marker open there is nothing the closing one could go with, and the bottom layer
      -- stays
      cases frames with
      | nil => exact ih [] _ []
      | cons frame outer =>
        simp only [layersOf, takeOff, bind, Except.bind]
        -- a marker that is closed puts its layer, decorated, on the one below
        by_cases hmatch : closerOf? frame.opener.kind = some child.kind
        · rw [if_pos hmatch, if_pos hmatch, putOn_layersOf]
          exact ih outer _ []
        · rw [if_neg hmatch, if_neg hmatch]
          exact ih (frame :: outer) _ []
    · rw [if_neg hcloser, if_neg hcloser, putOn_layersOf]
      exact ih frames _ []

/-- Running text is emitted without obstacle: there always is a layer on the stack. -/
theorem walkInlines_eq (children : List Token) :
    walkInlines children = .ok (renderInlines children) :=
  walkChildren_layersOf [] {} [] children

end MarkTex.Body
