import MarkTex.Proofs.Math.Segment

/-!
# Where the formulas of a text stand

The formulas of a text have positions in it (`spans`). Where the formulas stand depends on the
dollars alone (`segments_map`). A text that is read in pieces has the formulas of its pieces, and
just at their places, exactly if no formula of the whole text reaches over a border between two
pieces (`spansOfPieces_eq_iff`).

## Shape of the proof

A formula that starts in the first piece and ends in it is found there too, since a formula is told
from its own characters. So reading both pieces together follows reading the first one alone, until
it goes on with the second (`spans_append`).
-/

namespace MarkTex

/-! ## Characters that are read alike -/

/-- A segment with each of its characters changed. -/
def Segment.map (f : Char → Char) : Segment → Segment
  | .plain t => .plain (t.map f)
  | .math t => .math (t.map f)

namespace Text

section

variable {f : Char → Char} (hf : ∀ c, f c = '$' ↔ c = '$')

include hf

/-- A pair of dollars is found at the same place when other characters are changed. -/
theorem cutAtPair_map (t : Text) :
    cutAtPair (t.map f) = (cutAtPair t).map (Prod.map (List.map f) (List.map f)) := by
  have hdollar : f '$' = '$' := (hf '$').2 rfl
  fun_induction cutAtPair t with
  | case1 => rfl
  | case2 r =>
    rw [List.map_cons, List.map_cons, hdollar]
    rfl
  | case3 c r hpair ih =>
    have hhead : ∀ tail, f c = '$' → r.map f ≠ '$' :: tail := by
      intro tail hc hr
      obtain ⟨d, rest, rfl, hd, -⟩ := List.map_eq_cons_iff.1 hr
      exact hpair rest ((hf c).1 hc) (by rw [(hf d).1 hd])
    rw [List.map_cons, cutAtPair_cons hhead, ih, Option.map_map, Option.map_map]
    rfl

/-- A display formula is found at the same place when other characters are changed. -/
theorem displayMath?_map (t : Text) :
    displayMath? (t.map f) = (displayMath? t).map (Prod.map (List.map f) (List.map f)) := by
  have hdollar : f '$' = '$' := (hf '$').2 rfl
  fun_cases displayMath? t with
  | case1 c r =>
    rw [List.map_cons, List.map_cons, List.map_cons, hdollar, displayMath?, cutAtPair_map hf,
      Option.map_map, Option.map_map]
    refine congrArg (Option.map · (cutAtPair r)) (funext fun found => ?_)
    simp [hdollar]
  | case2 =>
    -- what starts like a display formula after the change did so before
    rename_i hstart
    rw [displayMath?.eq_def]
    split
    · rename_i heq
      obtain ⟨d, rest, rfl, hd, hrest⟩ := List.map_eq_cons_iff.1 heq
      obtain ⟨e, rest, rfl, he, hrest⟩ := List.map_eq_cons_iff.1 hrest
      obtain ⟨c, r, rfl, -, -⟩ := List.map_eq_cons_iff.1 hrest
      exact (hstart c r (by rw [(hf d).1 hd, (hf e).1 he])).elim
    · rfl

/-- An inline formula is found at the same place when other characters are changed. -/
theorem inlineMath?_map (t : Text) :
    inlineMath? (t.map f) = (inlineMath? t).map (Prod.map (List.map f) (List.map f)) := by
  have hdollar : f '$' = '$' := (hf '$').2 rfl
  have htext : (fun c => decide (c ≠ '$')) ∘ f = fun c => decide (c ≠ '$') := by
    funext c
    exact decide_eq_decide.2 (not_congr (hf c))
  cases t with
  | nil => rfl
  | cons d r =>
    by_cases hd : d = '$'
    · subst hd
      rw [List.map_cons, hdollar, inlineMath?, inlineMath?, List.takeWhile_map, List.dropWhile_map,
        htext]
      -- a formula is found if there is text up to a dollar
      cases r.takeWhile (· ≠ '$') with
      | nil => rfl
      | cons c body =>
        cases r.dropWhile (· ≠ '$') with
        | nil => rfl
        | cons e after =>
          by_cases he : e = '$'
          · subst he
            simp [hdollar]
          · have hfe : f e ≠ '$' := mt (hf e).1 he
            simp [he, hfe]
    · have hfd : f d ≠ '$' := mt (hf d).1 hd
      simp [inlineMath?, hd, hfd]

/-- A formula is found at the same place when other characters are changed. -/
theorem math?_map (t : Text) :
    math? (t.map f) = (math? t).map (Prod.map (List.map f) (List.map f)) := by
  rw [math?, math?, displayMath?_map hf, inlineMath?_map hf]
  cases displayMath? t with
  | none => rfl
  | some found => rfl

/-- A text is cut in the same places when characters other than dollars are changed. -/
theorem segments_map (t : Text) : segments (t.map f) = (segments t).map (Segment.map f) := by
  fun_induction segments t with
  | case1 t span after h ih =>
    have hmap : math? (t.map f) = some (span.map f, after.map f) := by
      rw [math?_map hf, h]
      rfl
    rw [segments_of_math? hmap, ih]
    rfl
  | case2 => rw [List.map_nil, segments_nil, List.map_nil]
  | case3 c r h ih =>
    have hmap : math? (f c :: r.map f) = none := by
      rw [← List.map_cons, math?_map hf, h]
      rfl
    rw [List.map_cons, segments_of_math?_none hmap, ih]
    cases segments r with
    | nil => rfl
    | cons segment rest => cases segment <;> rfl

end

/-! ## Positions -/

/-- Where the formulas among the segments start and end, if the first segment starts at `start`. -/
def spansFrom (start : Nat) : List Segment → List (Nat × Nat)
  | [] => []
  | .plain t :: rest => spansFrom (start + t.length) rest
  | .math t :: rest => (start, start + t.length) :: spansFrom (start + t.length) rest

/-- Where the formulas of a text start and end, if the text starts at `start`. -/
def spans (start : Nat) (t : Text) : List (Nat × Nat) :=
  spansFrom start (segments t)

theorem spans_nil (start : Nat) : spans start [] = [] := by
  rw [spans, segments_nil, spansFrom]

/-- Where a formula starts, its span is the first one. -/
theorem spans_of_math? {start : Nat} {t span after : Text} (h : math? t = some (span, after)) :
    spans start t = (start, start + span.length) :: spans (start + span.length) after := by
  rw [spans, segments_of_math? h, spansFrom, spans]

/-- Where no formula starts, the spans are those behind the character. -/
theorem spans_of_math?_none {start : Nat} {c : Char} {r : Text} (h : math? (c :: r) = none) :
    spans start (c :: r) = spans (start + 1) r := by
  rw [spans, segments_of_math?_none h, spans]
  fun_cases plainBefore c (segments r) with
  | case1 t rest =>
    rw [spansFrom, spansFrom, List.length_cons, Nat.add_assoc, Nat.add_comm 1]
  | case2 => rfl

/-- Spans depend on the dollars alone. -/
theorem spans_map {f : Char → Char} (hf : ∀ c, f c = '$' ↔ c = '$') (start : Nat) (t : Text) :
    spans start (t.map f) = spans start t := by
  rw [spans, segments_map hf, spans]
  induction segments t generalizing start with
  | nil => rfl
  | cons segment rest ih =>
    cases segment with
    | plain t => rw [List.map_cons, Segment.map, spansFrom, spansFrom, ih, List.length_map]
    | math t => rw [List.map_cons, Segment.map, spansFrom, spansFrom, ih, List.length_map]

/-- The formulas are the same ones, with their other characters changed. -/
theorem formulas_map {f : Char → Char} (hf : ∀ c, f c = '$' ↔ c = '$') (t : Text) :
    formulas (t.map f) = (formulas t).map (List.map f) := by
  rw [formulas_eq, segments_map hf, formulas_eq]
  induction segments t with
  | nil => rfl
  | cons segment rest ih =>
    cases segment with
    | plain t => exact ih
    | math t => exact congrArg (t.map f :: ·) ih

/-- A formula is inside of its text. -/
theorem bounds_of_mem_spans {start : Nat} {t : Text} {span : Nat × Nat} (h : span ∈ spans start t) :
    start ≤ span.1 ∧ span.2 ≤ start + t.length := by
  fun_induction segments t generalizing start with
  | case1 t first after hmath ih =>
    rw [spans_of_math? hmath] at h
    obtain ⟨-, rfl⟩ := math?_eq_some hmath
    rw [List.length_append]
    rcases List.mem_cons.1 h with rfl | h
    · exact ⟨Nat.le_refl _, by simp only; omega⟩
    · obtain ⟨hstart, hend⟩ := ih h
      omega
  | case2 =>
    rw [spans_nil] at h
    exact absurd h List.not_mem_nil
  | case3 c r hmath ih =>
    rw [spans_of_math?_none hmath] at h
    obtain ⟨hstart, hend⟩ := ih h
    rw [List.length_cons]
    omega

/-! ## Pieces -/

/-- A span reaches over a position if the position is inside of it. -/
def ReachesOver (span : Nat × Nat) (position : Nat) : Prop :=
  span.1 < position ∧ position < span.2

instance (span : Nat × Nat) (position : Nat) : Decidable (ReachesOver span position) :=
  inferInstanceAs (Decidable (_ ∧ _))

/-- If no formula reaches over the border between two texts, each has its own formulas. -/
theorem spans_append {start : Nat} {a b : Text}
    (h : ∀ span ∈ spans start (a ++ b), ¬ ReachesOver span (start + a.length)) :
    spans start (a ++ b) = spans start a ++ spans (start + a.length) b ∧
      formulas (a ++ b) = formulas a ++ formulas b := by
  fun_induction segments a generalizing start with
  | case1 a span after hmath ih =>
    obtain ⟨-, rfl⟩ := math?_eq_some hmath
    have hmath' : math? (span ++ after ++ b) = some (span, after ++ b) := by
      rw [List.append_assoc]
      exact math?_append hmath (after ++ b)
    rw [spans_of_math? hmath', List.forall_mem_cons, List.length_append, ← Nat.add_assoc] at h
    obtain ⟨hspans, hformulas⟩ := ih h.2
    rw [spans_of_math? hmath', spans_of_math? hmath, formulas_of_math? hmath',
      formulas_of_math? hmath, hspans, hformulas, List.length_append, Nat.add_assoc]
    exact ⟨rfl, rfl⟩
  | case2 =>
    rw [spans_nil, formulas_nil]
    exact ⟨rfl, rfl⟩
  | case3 c r hmath ih =>
    have hmath' : math? (c :: (r ++ b)) = none := by
      rw [Option.eq_none_iff_forall_ne_some]
      rintro ⟨span, after⟩ hsome
      obtain ⟨hne, htext⟩ := math?_eq_some hsome
      -- the formula would start in the first text, and end in it, as it reaches over no border
      have hend := h _ (by
        rw [List.cons_append, spans_of_math? hsome]
        exact List.mem_cons_self)
      have hlength : span.length ≤ (c :: r).length := by
        rw [ReachesOver] at hend
        rw [List.length_cons] at hend ⊢
        omega
      have hprefix : span <+: c :: r := by
        refine List.prefix_of_prefix_length_le ⟨after, htext⟩ ?_ hlength
        exact ⟨b, rfl⟩
      obtain ⟨rest, hrest⟩ := hprefix
      have hfound := math?_append hsome rest
      rw [hrest, hmath] at hfound
      simp at hfound
    rw [List.cons_append, spans_of_math?_none hmath', List.length_cons] at h
    have hstart : start + (r.length + 1) = start + 1 + r.length := by
      omega
    rw [hstart] at h
    rw [List.cons_append, spans_of_math?_none hmath', spans_of_math?_none hmath,
      formulas_of_math?_none hmath', formulas_of_math?_none hmath, List.length_cons, hstart]
    exact ih h

/-- Where the formulas of pieces start and end, if each piece is read on its own and the first one
starts at `start`. -/
def spansOfPieces (start : Nat) : List Text → List (Nat × Nat)
  | [] => []
  | piece :: pieces => spans start piece ++ spansOfPieces (start + piece.length) pieces

/-- Where the pieces end, if the first one starts at `start`. -/
def borders (start : Nat) : List Text → List Nat
  | [] => []
  | piece :: pieces => (start + piece.length) :: borders (start + piece.length) pieces

/-- No border stands in front of the start. -/
theorem le_of_mem_borders {start border : Nat} {pieces : List Text}
    (h : border ∈ borders start pieces) : start ≤ border := by
  induction pieces generalizing start with
  | nil => exact absurd h List.not_mem_nil
  | cons piece pieces ih =>
    rcases List.mem_cons.1 h with rfl | h
    · exact Nat.le_add_right _ _
    · exact Nat.le_trans (Nat.le_add_right _ _) (ih h)

/-- A formula of a piece reaches over no border. -/
theorem not_reachesOver_of_mem {start : Nat} {pieces : List Text} {span : Nat × Nat}
    (hspan : span ∈ spansOfPieces start pieces) :
    start ≤ span.1 ∧ ∀ border ∈ borders start pieces, ¬ ReachesOver span border := by
  induction pieces generalizing start with
  | nil => exact absurd hspan List.not_mem_nil
  | cons piece pieces ih =>
    rw [borders, List.forall_mem_cons]
    rcases List.mem_append.1 hspan with hspan | hspan
    · -- a span of this piece ends with the piece, in front of all borders behind it
      obtain ⟨hstart, hend⟩ := bounds_of_mem_spans hspan
      refine ⟨hstart, fun hreach => ?_, fun border hborder hreach => ?_⟩
      · exact absurd hreach.2 (Nat.not_lt.2 hend)
      · have hle := le_of_mem_borders hborder
        exact absurd hreach.2 (Nat.not_lt.2 (Nat.le_trans hend hle))
    · obtain ⟨hstart, hborders⟩ := ih hspan
      refine ⟨Nat.le_trans (Nat.le_add_right _ _) hstart, fun hreach => ?_, hborders⟩
      exact absurd hreach.1 (Nat.not_lt.2 hstart)

/-- If no formula reaches over a border, the formulas of a text are those of its pieces. -/
theorem spansOfPieces_eq {start : Nat} {pieces : List Text}
    (h : ∀ span ∈ spans start pieces.flatten, ∀ border ∈ borders start pieces,
      ¬ ReachesOver span border) :
    spansOfPieces start pieces = spans start pieces.flatten ∧
      pieces.flatMap formulas = formulas pieces.flatten := by
  induction pieces generalizing start with
  | nil =>
    rw [List.flatten_nil, spans_nil, formulas_nil]
    exact ⟨rfl, rfl⟩
  | cons piece pieces ih =>
    rw [List.flatten_cons] at h
    -- no formula reaches over the first border, so the first piece can be read alone
    obtain ⟨hspans, hformulas⟩ := spans_append fun span hspan => h span hspan _ List.mem_cons_self
    rw [hspans, List.forall_mem_append] at h
    obtain ⟨ihspans, ihformulas⟩ := ih fun span hspan border hborder =>
      h.2 span hspan border (List.mem_cons_of_mem _ hborder)
    rw [List.flatten_cons, hspans, hformulas, spansOfPieces, ihspans, List.flatMap_cons, ihformulas]
    exact ⟨rfl, rfl⟩

/-- Reading a text in pieces finds its formulas exactly if none of them reaches over a border. -/
theorem spansOfPieces_eq_iff {start : Nat} {pieces : List Text} :
    spansOfPieces start pieces = spans start pieces.flatten ↔
      ∀ span ∈ spans start pieces.flatten, ∀ border ∈ borders start pieces,
        ¬ ReachesOver span border := by
  constructor
  · intro h span hspan
    rw [← h] at hspan
    exact (not_reachesOver_of_mem hspan).2
  · exact fun h => (spansOfPieces_eq h).1

end Text

end MarkTex
