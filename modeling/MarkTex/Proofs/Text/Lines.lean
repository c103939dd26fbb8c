import Mathlib.Data.List.TakeWhile
import MarkTex.Text.Basic

/-!
# Joining, cutting, stripping and words

Some properties hold of a text that is put together if they hold of its parts (`Compositional`).
Parts that are joined with a separator are the first part, and each further part with the separator
in front (`intercalate_cons`); a part in the middle has the separator on both sides
(`intercalate_append_cons`). Lines that are joined are cut apart again where they were joined
(`splitAt_intercalate`, `splitAt_intercalate_self`). What is stripped off a text is white space
(`exists_strip`), all that stands at its ends (`strip_blank_append`, `strip_append_blank`), and
makes no words (`words_strip`); words hold none (`isWord_of_mem_words`).
-/

namespace MarkTex.Text

/-! ## Properties of texts that are put together -/

/-- A text has the property if it is put together from texts that have it. -/
structure Compositional (p : Text → Prop) : Prop where
  nil : p []
  append : ∀ {s t : Text}, p s → p t → p (s ++ t)

namespace Compositional

variable {p : Text → Prop} (hp : Compositional p)

include hp

/-- A property that is kept by putting texts together holds of a list of texts put together. -/
theorem flatten {texts : List Text} (h : ∀ t ∈ texts, p t) : p texts.flatten := by
  induction texts with
  | nil => exact hp.nil
  | cons t texts ih =>
    rw [List.forall_mem_cons] at h
    exact hp.append h.1 (ih h.2)

/-- A property that is kept by putting texts together holds of texts joined by a separator that has
it. -/
theorem intercalate {separator : Text} {texts : List Text} (hs : p separator)
    (h : ∀ t ∈ texts, p t) : p (List.intercalate separator texts) := by
  induction texts with
  | nil => exact hp.nil
  | cons t texts ih =>
    rw [List.forall_mem_cons] at h
    cases texts with
    | nil =>
      rw [List.intercalate_singleton]
      exact h.1
    | cons next texts =>
      rw [List.intercalate_cons_cons]
      exact hp.append (hp.append h.1 hs) (ih h.2)

/-- A property that is kept by putting texts together holds of what items are made into. -/
theorem flatMap {α : Type} {f : α → Text} {items : List α} (h : ∀ item ∈ items, p (f item)) :
    p (items.flatMap f) := by
  rw [List.flatMap_def]
  refine hp.flatten fun t ht => ?_
  obtain ⟨item, hitem, rfl⟩ := List.mem_map.1 ht
  exact h item hitem

/-- A property that is kept by putting texts together holds if it holds of each character. -/
theorem of_chars {t : Text} (h : ∀ c ∈ t, p [c]) : p t := by
  have hchars := hp.flatMap h
  rwa [List.flatMap_singleton'] at hchars

end Compositional

/-! ## Joining and cutting -/

/-- Joining puts the separator in front of every part but the first. -/
theorem intercalate_cons (separator part : Text) (parts : List Text) :
    List.intercalate separator (part :: parts) = part ++ parts.flatMap (separator ++ ·) := by
  induction parts generalizing part with
  | nil => simp
  | cons next parts ih =>
    rw [List.intercalate_cons_cons, ih, List.flatMap_cons, List.append_assoc, List.append_assoc]

/-- A part in the middle of a join, with what the join puts on its two sides. -/
theorem intercalate_append_cons (separator : Text) (parts : List Text) (part : Text)
    (others : List Text) :
    List.intercalate separator (parts ++ part :: others) =
      parts.flatMap (· ++ separator) ++ part ++ others.flatMap (separator ++ ·) := by
  induction parts with
  | nil => simpa using intercalate_cons separator part others
  | cons first parts ih =>
    have hjoin : List.intercalate separator (first :: (parts ++ part :: others)) =
        first ++ separator ++ List.intercalate separator (parts ++ part :: others) := by
      cases parts <;> exact List.intercalate_cons_cons
    rw [List.cons_append, hjoin, ih, List.flatMap_cons]
    simp only [List.append_assoc]

/-- The first part ends at the first occurrence of the sign. -/
theorem splitAt_append {c : Char} {t : Text} (h : c ∉ t) (rest : Text) :
    splitAt c (t ++ c :: rest) = t :: splitAt c rest := by
  induction t with
  | nil => rw [List.nil_append, splitAt, if_pos rfl]
  | cons d t ih =>
    rw [List.mem_cons, not_or] at h
    rw [List.cons_append, splitAt, if_neg (Ne.symm h.1), ih h.2]

/-- A text without the sign is not cut. -/
theorem splitAt_eq_singleton {c : Char} {t : Text} (h : c ∉ t) : splitAt c t = [t] := by
  induction t with
  | nil => rfl
  | cons d t ih =>
    rw [List.mem_cons, not_or] at h
    rw [splitAt, if_neg (Ne.symm h.1), ih h.2]

/-- Lines that are joined in front of any other lines are cut apart again. -/
theorem splitAt_intercalate {c : Char} {lines : List Text} (h : ∀ line ∈ lines, c ∉ line)
    (next : Text) (rest : List Text) :
    splitAt c (List.intercalate [c] (lines ++ next :: rest)) =
      lines ++ splitAt c (List.intercalate [c] (next :: rest)) := by
  induction lines with
  | nil => rfl
  | cons line lines ih =>
    rw [List.forall_mem_cons] at h
    have hjoin : List.intercalate [c] (line :: lines ++ next :: rest) =
        line ++ c :: List.intercalate [c] (lines ++ next :: rest) := by
      cases lines with
      | nil => simp [List.intercalate_cons_cons]
      | cons other lines => simp [List.intercalate_cons_cons]
    rw [hjoin, splitAt_append h.1, ih h.2, List.cons_append]

/-- All lines are got back. -/
theorem splitAt_intercalate_self {c : Char} {lines : List Text} (hne : lines ≠ [])
    (h : ∀ line ∈ lines, c ∉ line) : splitAt c (List.intercalate [c] lines) = lines := by
  obtain ⟨front, last, rfl⟩ : ∃ front last, lines = front ++ [last] :=
    ⟨lines.dropLast, lines.getLast hne, (List.dropLast_concat_getLast hne).symm⟩
  rw [List.forall_mem_append, List.forall_mem_singleton] at h
  rw [splitAt_intercalate h.1, List.intercalate_singleton, splitAt_eq_singleton h.2]

/-! ## Stripping -/

/-- A text is what is left of it when it is stripped, with white space in front and behind. -/
theorem exists_strip (t : Text) :
    ∃ front back, t = front ++ strip t ++ back ∧ (∀ c ∈ front, isBlank c = true) ∧
      ∀ c ∈ back, isBlank c = true := by
  have hblank : ∀ {t : Text}, ∀ c ∈ t.takeWhile isBlank, isBlank c = true := by
    intro t c hc
    have hall := List.all_takeWhile (p := isBlank) (l := t)
    exact List.all_eq_true.1 hall c hc
  have hfront : t = t.takeWhile isBlank ++ t.dropWhile isBlank :=
    List.takeWhile_append_dropWhile.symm
  -- stripping the end is cutting off the front of the reversed text
  have hback : t.dropWhile isBlank =
      strip t ++ ((t.dropWhile isBlank).reverse.takeWhile isBlank).reverse := by
    rw [strip, trimBy, ← List.reverse_append, List.takeWhile_append_dropWhile,
      List.reverse_reverse]
  refine ⟨t.takeWhile isBlank, ((t.dropWhile isBlank).reverse.takeWhile isBlank).reverse, ?_,
    hblank, fun c hc => hblank c (List.mem_reverse.1 hc)⟩
  rw [List.append_assoc, ← hback, ← hfront]

/-- White space in front of a text is stripped off. -/
theorem strip_blank_append {front : Text} (h : ∀ c ∈ front, isBlank c = true) (t : Text) :
    strip (front ++ t) = strip t := by
  rw [strip, strip, trimBy, trimBy, List.dropWhile_append_of_pos h]

/-- White space behind a text is stripped off. -/
theorem strip_append_blank (t : Text) {back : Text} (h : ∀ c ∈ back, isBlank c = true) :
    strip (t ++ back) = strip t := by
  have hback : back.dropWhile isBlank = [] := List.dropWhile_eq_nil_iff.2 h
  rw [strip, strip, trimBy, trimBy, List.dropWhile_append]
  split
  · rename_i hempty
    rw [hback, List.isEmpty_iff.1 hempty]
  · rw [List.reverse_append, List.dropWhile_append_of_pos fun c hc => h c (List.mem_reverse.1 hc)]

/-- A stripped text has nothing to strip. -/
theorem strip_strip (t : Text) : strip (strip t) = strip t := by
  obtain ⟨front, back, ht, hfront, hback⟩ := exists_strip t
  calc strip (strip t)
    _ = strip (front ++ strip t) := (strip_blank_append hfront _).symm
    _ = strip (front ++ strip t ++ back) := (strip_append_blank _ hback).symm
    _ = strip t := by rw [← ht]

/-! ## Words -/

/-- White space ends a word and starts none. -/
theorem wordsFrom_blank (word : Text) {back : Text} (h : ∀ c ∈ back, isBlank c = true) :
    wordsFrom word back = if word.isEmpty then [] else [word.reverse] := by
  induction back generalizing word with
  | nil => rw [wordsFrom]
  | cons c back ih =>
    rw [List.forall_mem_cons] at h
    rw [wordsFrom, if_pos h.1, ih [] h.2]
    rfl

/-- White space behind a text adds no word. -/
theorem wordsFrom_append_blank (word t : Text) {back : Text} (h : ∀ c ∈ back, isBlank c = true) :
    wordsFrom word (t ++ back) = wordsFrom word t := by
  induction t generalizing word with
  | nil => rw [List.nil_append, wordsFrom_blank word h, wordsFrom]
  | cons c t ih => rw [List.cons_append, wordsFrom, wordsFrom, ih, ih]

/-- White space in front of a text adds no word. -/
theorem words_blank_append {front : Text} (h : ∀ c ∈ front, isBlank c = true) (t : Text) :
    words (front ++ t) = words t := by
  induction front with
  | nil => rfl
  | cons c front ih =>
    rw [List.forall_mem_cons] at h
    rw [List.cons_append, words, wordsFrom, if_pos h.1]
    exact ih h.2

/-- Stripping changes no words. -/
theorem words_strip (t : Text) : words (strip t) = words t := by
  obtain ⟨front, back, ht, hfront, hback⟩ := exists_strip t
  calc words (strip t)
    _ = words (strip t ++ back) := (wordsFrom_append_blank [] (strip t) hback).symm
    _ = words (front ++ (strip t ++ back)) := (words_blank_append hfront _).symm
    _ = words t := by rw [← List.append_assoc, ← ht]

/-- A text without words is white space. -/
theorem isBlank_of_wordsFrom {word t : Text} (h : wordsFrom word t = []) :
    word = [] ∧ ∀ c ∈ t, isBlank c = true := by
  induction t generalizing word with
  | nil =>
    rw [wordsFrom] at h
    cases word with
    | nil => exact ⟨rfl, fun _ hc => absurd hc List.not_mem_nil⟩
    | cons c word => exact absurd h (List.cons_ne_nil _ _)
  | cons c t ih =>
    rw [wordsFrom] at h
    -- a character of a word would make a word, behind white space or not
    by_cases hc : isBlank c = true
    · cases word with
      | nil =>
        rw [if_pos hc] at h
        exact ⟨rfl, List.forall_mem_cons.2 ⟨hc, (ih h).2⟩⟩
      | cons d word =>
        rw [if_pos hc] at h
        exact absurd h (List.cons_ne_nil _ _)
    · rw [if_neg hc] at h
      exact absurd (ih h).1 (List.cons_ne_nil _ _)

/-- There are words unless nothing is left when white space is stripped off. -/
theorem words_ne_nil {t : Text} (h : strip t ≠ []) : words t ≠ [] := by
  intro hnil
  apply h
  have hblank : t.dropWhile isBlank = [] :=
    List.dropWhile_eq_nil_iff.2 (isBlank_of_wordsFrom hnil).2
  rw [strip, trimBy, hblank]
  rfl

/-- A text that is not empty and holds no white space. -/
def IsWord (w : Text) : Prop :=
  w ≠ [] ∧ ∀ c ∈ w, isBlank c = false

/-- The characters of a word may be held in reverse order while it is read. -/
theorem isWord_reverse {word : Text} (hne : ¬ word.isEmpty = true)
    (h : ∀ c ∈ word, isBlank c = false) : IsWord word.reverse := by
  refine ⟨?_, fun c hc => h c (List.mem_reverse.1 hc)⟩
  rwa [Ne, List.reverse_eq_nil_iff, ← List.isEmpty_iff]

/-- The words of a text are words, and so is the one that was begun before it. -/
theorem isWord_of_mem_wordsFrom {word t : Text} (hword : ∀ c ∈ word, isBlank c = false) :
    ∀ w ∈ wordsFrom word t, IsWord w := by
  have hnone : ∀ c ∈ ([] : Text), isBlank c = false := fun _ hc => absurd hc List.not_mem_nil
  fun_induction wordsFrom word t with
  | case1 => exact fun _ hw => absurd hw List.not_mem_nil
  | case2 word hne =>
    rw [List.forall_mem_singleton]
    exact isWord_reverse hne hword
  | case3 word c r hblank hnil ih => exact ih hnone
  | case4 word c r hblank hne ih =>
    rw [List.forall_mem_cons]
    exact ⟨isWord_reverse hne hword, ih hnone⟩
  | case5 word c r hblank ih =>
    rw [Bool.not_eq_true] at hblank
    exact ih (List.forall_mem_cons.2 ⟨hblank, hword⟩)

/-- The words of a text hold no white space and are not empty. -/
theorem isWord_of_mem_words {t : Text} : ∀ w ∈ words t, IsWord w :=
  isWord_of_mem_wordsFrom fun _ hc => absurd hc List.not_mem_nil

/-- Nothing is stripped off a text without white space. -/
theorem strip_eq_self {t : Text} (h : ∀ c ∈ t, isBlank c = false) : strip t = t := by
  obtain ⟨front, back, ht, hfront, hback⟩ := exists_strip t
  have hempty : ∀ {u : Text}, (∀ c ∈ u, c ∈ t) → (∀ c ∈ u, isBlank c = true) → u = [] := by
    intro u hmem hblank
    refine List.eq_nil_iff_forall_not_mem.2 fun c hc => ?_
    exact Bool.false_ne_true ((h c (hmem c hc)).symm.trans (hblank c hc))
  have hfrontNil : front = [] := hempty (fun c hc => by rw [ht]; simp [hc]) hfront
  have hbackNil : back = [] := hempty (fun c hc => by rw [ht]; simp [hc]) hback
  rw [hfrontNil, hbackNil, List.nil_append, List.append_nil] at ht
  exact ht.symm

end MarkTex.Text
