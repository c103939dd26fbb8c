import Mathlib.Algebra.Ring.Nat
import Mathlib.Data.List.Chain
import MarkTex.Proofs.Math.Segment
import MarkTex.Proofs.Text.Lines
import MarkTex.WordCount

/-!
# What the counts cover

The counts of a document are the sums over its inline tokens of what is counted in their plain
stretches, each token on the side of the tables or of the running text (`count_collect`). This holds
although formulas are taken out by their texts: the occurrence that goes may be an earlier one than
the formula that was found.

## Shape of the proof

* Words and characters are both counts that come apart at dollars and spaces (`ComesApart`); nothing
  else about them is used.
* A formula stands between two dollars. So whichever occurrence of its text is replaced by a space,
  the count of what is left is the same as if the formula itself were (`count_replaceFirst`).
* By induction over the formulas of a text, the count of what is left is that of the text with a
  space in place of each formula, which is the sum over the plain stretches (`count_dropFormulas`).
-/

namespace MarkTex

open Markdown (Token)

/-! ## Plain stretches -/

namespace Text

/-- The plain stretches of a text, from left to right. -/
def plainTexts (t : Text) : List Text :=
  (segments t).filterMap fun
    | .plain s => some s
    | .math _ => none

/-- No two plain segments stand next to each other. -/
def Alternates (segments : List Segment) : Prop :=
  segments.IsChain fun a b => a.isMath = true ∨ b.isMath = true

/-- A plain character in front of segments joins a plain one. -/
theorem alternates_plainBefore (c : Char) {segments : List Segment} (h : Alternates segments) :
    Alternates (plainBefore c segments) := by
  fun_cases plainBefore c segments with
  | case1 t rest =>
    rw [Alternates, List.isChain_cons] at h ⊢
    exact h
  | case2 =>
    rename_i hplain
    rw [Alternates, List.isChain_cons]
    refine ⟨fun segment hsegment => .inr ?_, h⟩
    cases segment with
    | plain t =>
      obtain ⟨rest, rfl⟩ := List.head?_eq_some_iff.1 hsegment
      exact (hplain t rest rfl).elim
    | math span => rfl

/-- No two plain segments of a text touch. -/
theorem alternates_segments (t : Text) : Alternates (segments t) := by
  fun_induction segments t with
  | case1 t span after h ih =>
    rw [Alternates, List.isChain_cons]
    exact ⟨fun _ _ => .inl rfl, ih⟩
  | case2 => exact .nil
  | case3 c r h ih => exact alternates_plainBefore c ih

end Text

namespace WordCount

/-! ## Counts that come apart -/

/-- The count of a text is made up of the counts on both sides of a dollar or a space in it, and
spaces do not count. -/
structure ComesApart (count : Text → Nat) : Prop where
  split : ∀ {c}, c = '$' ∨ c = ' ' → ∀ s t, count (s ++ c :: t) = count s + count [c] + count t
  space : count [' '] = 0

/-- A sign that belongs to no word sets the words on both sides apart. -/
theorem countWordsFrom_append {c : Char} (hideograph : Text.isIdeograph c = false)
    (hletter : Text.isAsciiAlphanum c = false) (inWord : Bool) (s t : Text) :
    countWordsFrom inWord (s ++ c :: t) = countWordsFrom inWord s + countWords t := by
  induction s generalizing inWord with
  | nil =>
    have hcons : countWordsFrom inWord (c :: t) = countWords t := by
      simp [countWordsFrom, countWords, hideograph, hletter]
    rw [List.nil_append, hcons, countWordsFrom, Nat.zero_add]
  | cons d s ih =>
    rw [List.cons_append, countWordsFrom, countWordsFrom]
    -- an ideograph is a word, a letter begins one or goes on with it, anything else ends it
    split
    · rw [ih]
      omega
    split
    · split
      · rw [ih]
      · rw [ih]
        omega
    · rw [ih]

/-- Words come apart at dollars and spaces. -/
theorem comesApart_countWords : ComesApart countWords where
  split := by
    rintro c (rfl | rfl) s t
    · exact countWordsFrom_append (by decide) (by decide) false s t
    · exact countWordsFrom_append (by decide) (by decide) false s t
  space := by decide

/-- Characters come apart at dollars and spaces. -/
theorem comesApart_countChars : ComesApart countChars where
  split := by
    intro c _ s t
    rw [countChars, countChars, countChars, countChars, List.countP_append, List.countP_cons,
      List.countP_singleton]
    omega
  space := by decide

namespace ComesApart

variable {count : Text → Nat} (h : ComesApart count)

include h

/-- A space may as well not stand between two texts. -/
theorem append_space (s t : Text) : count (s ++ ' ' :: t) = count s + count t := by
  rw [h.split (.inr rfl), h.space, Nat.add_zero]

theorem count_nil : count [] = 0 := by
  have hspace := h.append_space [] []
  rw [List.nil_append, h.space] at hspace
  omega

/-- A space in front counts nothing. -/
theorem cons_space (t : Text) : count (' ' :: t) = count t := by
  have hspace := h.append_space [] t
  rwa [List.nil_append, h.count_nil, Nat.zero_add] at hspace

/-- Texts that are joined by spaces count as they do one by one. -/
theorem intercalate_space (texts : List Text) :
    count (List.intercalate [' '] texts) = (texts.map count).sum := by
  induction texts with
  | nil => exact h.count_nil
  | cons t texts ih =>
    cases texts with
    | nil => simp
    | cons next texts =>
      rw [List.intercalate_cons_cons, List.append_assoc, List.singleton_append, h.append_space, ih]
      simp

/-- The count of a text with a formula in it. -/
theorem append_formula (s body t : Text) :
    count (s ++ '$' :: (body ++ ['$']) ++ t) =
      count s + count t + (count body + 2 * count ['$']) := by
  have htext : s ++ '$' :: (body ++ ['$']) ++ t = s ++ '$' :: (body ++ '$' :: t) := by
    simp
  rw [htext, h.split (.inl rfl), h.split (.inl rfl)]
  omega

end ComesApart

/-- A segment with a space in place of a formula. -/
def blankFormula : Segment → Text
  | .plain t => t
  | .math _ => [' ']

/-- A plain character stays when formulas give way to spaces. -/
theorem flatMap_blankFormula_plainBefore (c : Char) (segments : List Segment) :
    (Text.plainBefore c segments).flatMap blankFormula = c :: segments.flatMap blankFormula := by
  fun_cases Text.plainBefore c segments with
  | case1 t rest => rfl
  | case2 => rfl

/-! ## Taking formulas out -/

/-- Where a text is known to occur, its first occurrence ends no later than that. -/
theorem cutAt_append {s : Text} (hs : s ≠ []) (front rest : Text) :
    ∃ before back, Text.cutAt s (front ++ s ++ rest) = some (before, back ++ rest) ∧
      before ++ s ++ back = front ++ s := by
  induction front with
  | nil =>
    obtain ⟨c, r, rfl⟩ := List.exists_cons_of_ne_nil hs
    have hprefix : (c :: r).isPrefixOf (c :: (r ++ rest)) = true :=
      List.isPrefixOf_iff_prefix.2 (List.prefix_append (c :: r) rest)
    refine ⟨[], [], ?_, by simp⟩
    rw [List.nil_append, List.cons_append, Text.cutAt, if_pos hprefix, ← List.cons_append,
      List.drop_left]
    rfl
  | cons c front ih =>
    rw [List.cons_append, List.cons_append, Text.cutAt]
    split
    · rename_i hprefix
      -- the text stands at the very start, so what it ends with is the rest of the front
      have hshort : s <+: c :: (front ++ s) := by
        refine List.prefix_of_prefix_length_le (List.isPrefixOf_iff_prefix.1 hprefix)
          (List.prefix_append (c :: (front ++ s)) rest) ?_
        simp
        omega
      obtain ⟨back, hback⟩ := hshort
      refine ⟨[], back, ?_, hback⟩
      rw [← List.cons_append, ← hback, List.append_assoc, List.drop_left]
    · obtain ⟨before, back, hcut, htext⟩ := ih
      refine ⟨c :: before, back, ?_, by rw [List.cons_append, List.cons_append, htext]⟩
      rw [hcut]
      rfl

section

variable {count : Text → Nat} (h : ComesApart count)

include h

/-- Whichever occurrence of a formula goes, what is left in front of the rest counts as it did in
front of the formula; the rest stays as it is. -/
theorem count_replaceFirst (front body rest : Text) :
    ∃ left, Text.replaceFirst ('$' :: (body ++ ['$'])) [' ']
        (front ++ '$' :: (body ++ ['$']) ++ rest) = left ++ rest ∧
      ∀ t, count (left ++ t) = count front + count t := by
  obtain ⟨before, back, hcut, htext⟩ :=
    cutAt_append (s := '$' :: (body ++ ['$'])) (by simp) front rest
  have hreplace : Text.replaceFirst ('$' :: (body ++ ['$'])) [' ']
      (front ++ '$' :: (body ++ ['$']) ++ rest) = before ++ ' ' :: back ++ rest := by
    rw [Text.replaceFirst, hcut]
    simp
  refine ⟨before ++ ' ' :: back, hreplace, fun t => ?_⟩
  -- the same formula stands in both texts, so what stands around it counts the same
  have haround : count before + count back = count front := by
    have hbefore := h.append_formula before body back
    have hfront := h.append_formula front body []
    rw [List.append_nil, ← htext, h.count_nil] at hfront
    omega
  have hback : count (back ++ t) = count back + count t := by
    rcases List.eq_nil_or_concat back with rfl | ⟨back, last, rfl⟩
    · rw [List.nil_append, h.count_nil, Nat.zero_add]
    · -- what the occurrence leaves behind ends where the formula ends, with a dollar
      have hends : before ++ '$' :: (body ++ ['$']) ++ back ++ [last] =
          front ++ '$' :: body ++ ['$'] := by
        simpa using htext
      obtain rfl := (List.append_singleton_inj.1 hends).2
      have hall := h.split (.inl rfl) back t
      have hnone := h.split (.inl rfl) back []
      rw [h.count_nil] at hnone
      rw [List.concat_eq_append, List.append_assoc, List.singleton_append]
      omega
  rw [List.append_assoc, List.cons_append, h.append_space, hback]
  omega

/-- What is left of a text counts as the text with a space in place of each formula, whatever was
left in front of it. -/
theorem count_foldl_replaceFirst (front t : Text) :
    count ((Text.formulas t).foldl (fun rest formula => Text.replaceFirst formula [' '] rest)
        (front ++ t)) =
      count (front ++ (Text.segments t).flatMap blankFormula) := by
  fun_induction Text.segments t generalizing front with
  | case1 t span after hmath ih =>
    obtain ⟨body, rfl⟩ := Text.dollars_of_math? hmath
    obtain ⟨-, rfl⟩ := Text.math?_eq_some hmath
    obtain ⟨left, hleft, hcount⟩ := count_replaceFirst h front body after
    rw [Text.formulas_of_math? hmath, List.foldl_cons, ← List.append_assoc, hleft, ih, hcount,
      List.flatMap_cons, blankFormula, List.singleton_append, h.append_space]
  | case2 => rw [Text.formulas_nil, List.foldl_nil, List.flatMap_nil]
  | case3 c r hmath ih =>
    rw [Text.formulas_of_math?_none hmath, List.append_cons, ih,
      flatMap_blankFormula_plainBefore, ← List.append_cons]

/-- Plain segments that do not stand next to each other are kept apart by spaces. -/
theorem count_flatMap_blankFormula {segments : List Segment}
    (halternates : Text.Alternates segments) :
    count (segments.flatMap blankFormula) =
      ((segments.filterMap fun
        | .plain s => some s
        | .math _ => none).map count).sum := by
  induction segments with
  | nil => exact h.count_nil
  | cons segment rest ih =>
    rw [Text.Alternates, List.isChain_cons] at halternates
    cases segment with
    | math span =>
      rw [List.flatMap_cons, blankFormula, List.singleton_append, h.cons_space, ih halternates.2]
      rfl
    | plain t =>
      have hrest : count (t ++ rest.flatMap blankFormula) =
          count t + count (rest.flatMap blankFormula) := by
        cases rest with
        | nil => rw [List.flatMap_nil, List.append_nil, h.count_nil, Nat.add_zero]
        | cons next rest =>
          -- plain segments do not touch, so a space comes next
          cases next with
          | plain s =>
            have hnext := halternates.1 (.plain s) rfl
            simp [Segment.isMath] at hnext
          | math span =>
            rw [List.flatMap_cons, blankFormula, List.singleton_append, h.append_space,
              h.cons_space]
      rw [List.flatMap_cons, blankFormula, hrest, ih halternates.2]
      rfl

/-- Taking the formulas out of a text neither merges, loses nor repeats what is counted. -/
theorem count_dropFormulas (t : Text) :
    count (dropFormulas t) = ((Text.plainTexts t).map count).sum := by
  have hfold := count_foldl_replaceFirst h [] t
  rw [List.nil_append, List.nil_append] at hfold
  rw [dropFormulas, hfold, count_flatMap_blankFormula h (Text.alternates_segments t),
    Text.plainTexts]

end

/-! ## Running text and tables -/

/-- The number of open tables behind a token, if it is `depth` in front of it. A table that is
closed without being open does not count. -/
def depthAfter (depth : Nat) (t : Token) : Nat :=
  if t.kind = "table_open" then depth + 1
  else if t.kind = "table_close" then depth - 1
  else depth

/-- The inline tokens of a document at which the number of open tables is as `p` says. -/
def inlinesAt (p : Nat → Bool) (tokens : List Token) : List Token :=
  ((tokens.zip (tokens.scanl depthAfter 0)).filter fun (t, depth) =>
    t.kind = "inline" && p depth).map Prod.fst

/-- The count over the plain stretches of an inline token. -/
def plainCount (count : Text → Nat) (t : Token) : Nat :=
  ((Text.plainTexts (t.inlines.flatMap childText)).map count).sum

/-- The texts that are collected are those of the inline tokens at the right depth. -/
theorem collectFrom_eq (depth : Nat) (tokens : List Token) :
    collectFrom depth tokens =
      ((((tokens.zip (tokens.scanl depthAfter depth)).filter fun (t, depth) =>
          t.kind = "inline" && depth == 0).map Prod.fst).map inlineText,
        (((tokens.zip (tokens.scanl depthAfter depth)).filter fun (t, depth) =>
          t.kind = "inline" && 0 < depth).map Prod.fst).map inlineText) := by
  induction tokens generalizing depth with
  | nil => rfl
  | cons t rest ih =>
    rw [collectFrom, List.scanl_cons, List.zip_cons_cons]
    -- tables change the depth for what comes behind, and are not counted themselves
    by_cases hopen : t.kind = "table_open"
    · rw [if_pos hopen, ih, depthAfter, if_pos hopen]
      simp [hopen]
    by_cases hclose : t.kind = "table_close"
    · rw [if_neg hopen, if_pos hclose, ih, depthAfter, if_neg hopen, if_pos hclose]
      simp [hclose]
    rw [if_neg hopen, if_neg hclose, ih, depthAfter, if_neg hopen, if_neg hclose]
    by_cases hinline : t.kind = "inline"
    · cases depth with
      | zero => simp [hinline]
      | succ depth => simp [hinline]
    · simp [hinline]

/-- **The counts cover the plain text of a document, and nothing twice.** The words of the running
text are those of the plain stretches of the inline tokens at which no table is open, and the words
of the tables those at which one is open; and so it is for characters. -/
theorem count_collect (tokens : List Token) :
    countWords (collect tokens).1 =
        ((inlinesAt (· == 0) tokens).map (plainCount countWords)).sum ∧
      countWords (collect tokens).2 =
        ((inlinesAt (0 < ·) tokens).map (plainCount countWords)).sum ∧
      countChars (collect tokens).1 =
        ((inlinesAt (· == 0) tokens).map (plainCount countChars)).sum ∧
      countChars (collect tokens).2 =
        ((inlinesAt (0 < ·) tokens).map (plainCount countChars)).sum := by
  have hcollect : collect tokens =
      (List.intercalate [' '] ((inlinesAt (· == 0) tokens).map inlineText),
        List.intercalate [' '] ((inlinesAt (0 < ·) tokens).map inlineText)) := by
    rw [collect, collectFrom_eq]
    rfl
  -- each token is counted by itself, for a space joins them
  have hsum : ∀ {count : Text → Nat}, ComesApart count → ∀ inlines : List Token,
      count (List.intercalate [' '] (inlines.map inlineText)) =
        (inlines.map (plainCount count)).sum := by
    intro count h inlines
    rw [h.intercalate_space, List.map_map]
    refine congrArg List.sum (List.map_congr_left fun t _ => ?_)
    exact count_dropFormulas h (t.inlines.flatMap childText)
  rw [hcollect]
  exact ⟨hsum comesApart_countWords _, hsum comesApart_countWords _,
    hsum comesApart_countChars _, hsum comesApart_countChars _⟩

end WordCount

end MarkTex
