import MarkTex.Math.Segment

/-!
# Segments of a text

A formula is told from its own characters: in front of any other text the same formula is found
(`math?_append`). The segments of a text make up the text (`flatMap_text_segments`), and those of
them that are formulas are what a search for formulas finds (`formulas_eq`).
-/

namespace MarkTex

/-- The formula that a segment is, if it is one. -/
def Segment.formula? : Segment → Option Text
  | .plain _ => none
  | .math span => some span

namespace Text

/-! ## One formula -/

/-- A character that starts no pair of dollars is passed over. -/
theorem cutAtPair_cons {c : Char} {r : Text} (h : ∀ tail, c = '$' → r ≠ '$' :: tail) :
    cutAtPair (c :: r) = (cutAtPair r).map fun (body, after) => (c :: body, after) := by
  rw [cutAtPair.eq_def]
  split
  · rename_i heq
    exact nomatch heq
  · rename_i heq
    obtain ⟨rfl, rfl⟩ := List.cons.inj heq
    exact absurd rfl (h _ rfl)
  · rename_i heq
    obtain ⟨rfl, rfl⟩ := List.cons.inj heq
    rfl

/-- The cut at the first pair of dollars does not depend on what follows the pair. -/
theorem cutAtPair_append {t body after : Text} (h : cutAtPair t = some (body, after))
    (rest : Text) : cutAtPair (body ++ '$' :: '$' :: rest) = some (body, rest) := by
  fun_induction cutAtPair t generalizing body with
  | case1 => simp at h
  | case2 r =>
    obtain ⟨rfl, -⟩ := by simpa using h
    rfl
  | case3 c r hpair ih =>
    obtain ⟨⟨b, a⟩, hb, hp⟩ := Option.map_eq_some_iff.1 h
    obtain ⟨rfl, rfl⟩ := by simpa using hp
    -- the first character still starts no pair: behind it stands what stood there before
    have hhead : ∀ tail, c = '$' → b ++ '$' :: '$' :: rest ≠ '$' :: tail := by
      rintro tail rfl heq
      have hr := append_of_cutAtPair hb
      cases b with
      | nil => exact hpair _ rfl hr.symm
      | cons d b =>
        obtain ⟨rfl, -⟩ := by simpa using heq
        exact hpair _ rfl hr.symm
    rw [List.cons_append, cutAtPair_cons hhead, ih hb]
    rfl

/-- A display formula is found in front of any text. -/
theorem displayMath?_append {t span after : Text} (h : displayMath? t = some (span, after))
    (rest : Text) : displayMath? (span ++ rest) = some (span, rest) := by
  unfold displayMath? at h
  split at h
  · rename_i c r
    obtain ⟨⟨body, a⟩, hbody, hp⟩ := Option.map_eq_some_iff.1 h
    obtain ⟨rfl, rfl⟩ := by simpa using hp
    have hspan : '$' :: '$' :: c :: (body ++ ['$', '$']) ++ rest =
        '$' :: '$' :: c :: (body ++ '$' :: '$' :: rest) := by
      simp
    rw [hspan, displayMath?, cutAtPair_append hbody]
    rfl
  · simp at h

/-- An inline formula opens with a single dollar, so it is no display formula in front of any
text. -/
theorem inlineMath?_append {t span after : Text} (h : inlineMath? t = some (span, after))
    (rest : Text) :
    displayMath? (span ++ rest) = none ∧ inlineMath? (span ++ rest) = some (span, rest) := by
  unfold inlineMath? at h
  split at h
  · rename_i r
    split at h
    · rename_i c body after' hbody hafter
      obtain ⟨rfl, rfl⟩ := by simpa using h
      -- there is no dollar inside, so the formula cannot be read as one on display
      have hplain : ∀ d ∈ c :: body, d ≠ '$' := by
        intro d hd
        have hall := List.all_takeWhile (p := (· ≠ '$')) (l := r)
        rw [hbody, List.all_eq_true] at hall
        simpa using hall d hd
      have hspan : '$' :: c :: (body ++ ['$']) ++ rest = '$' :: (c :: body ++ '$' :: rest) := by
        simp
      rw [hspan]
      constructor
      · have hc : c ≠ '$' := hplain c (by simp)
        simp [displayMath?, hc]
      · -- and it ends at the first dollar, whatever text comes behind
        have htake : (c :: body ++ '$' :: rest).takeWhile (· ≠ '$') = c :: body := by
          rw [List.takeWhile_append_of_pos (by simpa using hplain)]
          simp
        have hdrop : (c :: body ++ '$' :: rest).dropWhile (· ≠ '$') = '$' :: rest := by
          rw [List.dropWhile_append_of_pos (by simpa using hplain)]
          simp
        rw [inlineMath?, htake, hdrop]
        rfl
    · simp at h
  · simp at h

/-- A text that starts with a formula starts with the same formula in front of any other text. -/
theorem math?_append {t span after : Text} (h : math? t = some (span, after)) (rest : Text) :
    math? (span ++ rest) = some (span, rest) := by
  unfold math? at h
  split at h
  · rename_i found hfound
    obtain rfl := by simpa using h
    rw [math?, displayMath?_append hfound]
  · obtain ⟨hdisplay, hinline⟩ := inlineMath?_append h rest
    rw [math?, hdisplay, hinline]

/-- A formula starts with a dollar. -/
theorem head_of_math? {c : Char} {r span after : Text} (h : math? (c :: r) = some (span, after)) :
    c = '$' := by
  unfold math? at h
  split at h
  · rename_i found hfound
    obtain rfl := by simpa using h
    obtain ⟨_, _, rfl, ht⟩ := displayMath?_eq_some hfound
    exact (List.cons.inj ht).1.symm
  · obtain ⟨_, _, rfl, ht⟩ := inlineMath?_eq_some h
    exact (List.cons.inj ht).1.symm

/-- A formula starts and ends with a dollar, and these are two. -/
theorem dollars_of_math? {t span after : Text} (h : math? t = some (span, after)) :
    ∃ body, span = '$' :: (body ++ ['$']) := by
  unfold math? at h
  split at h
  · rename_i found hfound
    obtain rfl := by simpa using h
    obtain ⟨c, body, rfl, -⟩ := displayMath?_eq_some hfound
    exact ⟨'$' :: c :: (body ++ ['$']), by simp⟩
  · obtain ⟨c, body, rfl, -⟩ := inlineMath?_eq_some h
    exact ⟨c :: body, by simp⟩

/-- A formula ends with a dollar. -/
theorem last_of_math? {t span after : Text} (h : math? t = some (span, after)) :
    ∃ body, span = body ++ ['$'] := by
  obtain ⟨body, rfl⟩ := dollars_of_math? h
  exact ⟨'$' :: body, rfl⟩

/-! ## A whole text -/

@[simp] theorem segments_nil : segments [] = [] := by
  rw [segments]
  rfl

/-- Where a formula starts, it is the first segment. -/
theorem segments_of_math? {t span after : Text} (h : math? t = some (span, after)) :
    segments t = .math span :: segments after := by
  rw [segments]
  split
  · rename_i heq
    rw [h] at heq
    obtain ⟨rfl, rfl⟩ := by simpa using heq
    rfl
  · rename_i heq
    rw [h] at heq
    simp at heq

/-- A character that no formula starts with is plain. -/
theorem segments_of_math?_none {c : Char} {r : Text} (h : math? (c :: r) = none) :
    segments (c :: r) = plainBefore c (segments r) := by
  rw [segments]
  split
  · rename_i heq
    rw [h] at heq
    simp at heq
  · rfl

@[simp] theorem formulas_nil : formulas [] = [] := by
  rw [formulas]
  rfl

/-- The search goes on behind a formula. -/
theorem formulas_of_math? {t span after : Text} (h : math? t = some (span, after)) :
    formulas t = span :: formulas after := by
  rw [formulas]
  split
  · rename_i heq
    rw [h] at heq
    obtain ⟨rfl, rfl⟩ := by simpa using heq
    rfl
  · rename_i heq
    rw [h] at heq
    simp at heq

/-- A character that no formula starts with is passed over. -/
theorem formulas_of_math?_none {c : Char} {r : Text} (h : math? (c :: r) = none) :
    formulas (c :: r) = formulas r := by
  rw [formulas]
  split
  · rename_i heq
    rw [h] at heq
    simp at heq
  · rfl

/-- A plain character in front brings no formula. -/
theorem filterMap_formula?_plainBefore (c : Char) (segments : List Segment) :
    (plainBefore c segments).filterMap Segment.formula? = segments.filterMap Segment.formula? := by
  fun_cases plainBefore c segments with
  | case1 t rest => rfl
  | case2 => rfl

/-- **The search for formulas finds those among the segments**, in the same order. -/
theorem formulas_eq (t : Text) : formulas t = (segments t).filterMap Segment.formula? := by
  -- both scan from left to right, so the search takes the steps that the segments take
  fun_induction segments t with
  | case1 t span after h ih =>
    rw [formulas_of_math? h, ih]
    rfl
  | case2 => exact formulas_nil
  | case3 c r h ih => rw [formulas_of_math?_none h, ih, filterMap_formula?_plainBefore]

/-- A text without dollars is a single plain segment. -/
theorem segments_of_not_mem {c : Char} {r : Text} (h : '$' ∉ c :: r) :
    segments (c :: r) = [.plain (c :: r)] := by
  have hmath : math? (c :: r) = none := by
    rw [Option.eq_none_iff_forall_ne_some]
    intro found hfound
    exact h (List.mem_cons.2 (.inl (head_of_math? hfound).symm))
  rw [segments_of_math?_none hmath]
  cases r with
  | nil =>
    rw [segments_nil]
    rfl
  | cons d r =>
    rw [segments_of_not_mem fun hr => h (List.mem_cons_of_mem c hr)]
    rfl

/-- A text without dollars holds no formula. -/
theorem formulas_of_not_mem {t : Text} (h : '$' ∉ t) : formulas t = [] := by
  cases t with
  | nil => exact formulas_nil
  | cons c r =>
    rw [formulas_eq, segments_of_not_mem h]
    rfl

/-- The text of a segment list after one more plain character. -/
theorem flatMap_text_plainBefore (c : Char) (segments : List Segment) :
    (plainBefore c segments).flatMap Segment.text = c :: segments.flatMap Segment.text := by
  fun_cases plainBefore c segments with
  | case1 t rest => rfl
  | case2 => rfl

/-- The segments of a text make up the text. -/
theorem flatMap_text_segments (t : Text) : (segments t).flatMap Segment.text = t := by
  fun_induction segments t with
  | case1 t span after h ih =>
    rw [List.flatMap_cons, ih]
    exact (math?_eq_some h).2
  | case2 => rfl
  | case3 c r h ih => rw [flatMap_text_plainBefore, ih]

/-- The formulas of a text are those among its segments. -/
theorem mem_formulas {t span : Text} : span ∈ formulas t ↔ .math span ∈ segments t := by
  rw [formulas_eq, List.mem_filterMap]
  constructor
  · rintro ⟨segment, hsegment, hspan⟩
    cases segment with
    | plain u => exact nomatch hspan
    | math u =>
      obtain rfl := Option.some.inj hspan
      exact hsegment
  · intro h
    exact ⟨.math span, h, rfl⟩

/-- One more plain character adds no formula. -/
theorem math_mem_plainBefore {c : Char} {span : Text} {segments : List Segment}
    (h : .math span ∈ plainBefore c segments) : .math span ∈ segments := by
  fun_cases plainBefore c segments with
  | case1 t rest => simpa [plainBefore] using h
  | case2 => simpa [plainBefore] using h

/-- Each formula of a text ends with a dollar. -/
theorem last_of_mem_segments {t span : Text} (h : .math span ∈ segments t) :
    ∃ body, span = body ++ ['$'] := by
  fun_induction segments t with
  | case1 t first after hfirst ih =>
    rcases List.mem_cons.1 h with heq | h
    · obtain rfl := Segment.math.inj heq
      exact last_of_math? hfirst
    · exact ih h
  | case2 => exact absurd h List.not_mem_nil
  | case3 c r _ ih => exact ih (math_mem_plainBefore h)

/-- A text has math if it has formulas. -/
theorem hasMath_iff {t : Text} : hasMath t = true ↔ formulas t ≠ [] := by
  rw [hasMath, List.any_eq_true]
  constructor
  · rintro ⟨segment, hsegment, hmath⟩
    cases segment with
    | plain u => simp [Segment.isMath] at hmath
    | math u => exact List.ne_nil_of_mem (mem_formulas.2 hsegment)
  · intro h
    obtain ⟨span, hspan⟩ := List.exists_mem_of_ne_nil _ h
    exact ⟨.math span, mem_formulas.1 hspan, rfl⟩

end Text

end MarkTex
