import MarkTex.Proofs.Math.Segment

/-!
# How a text is cut into segments

The segments of a text can be told without scanning it: they make up the text, each formula is one
of the two forms, each plain stretch is as long as it can be and no formula starts in it, and where
both forms could start the display form is taken (`IsSegmentation`). There is just one such list
(`isSegmentation_unique`).

## Shape of the proof

What the scan finds at the start of a text is exactly a formula that the text starts with
(`math?_eq_some_iff`). So scanning gives a segmentation, character by character, and scanning the
text of any segmentation gives the segmentation back, segment by segment (`segments_eq`).
-/

namespace MarkTex

namespace Text

/-! ## The two forms of a formula -/

/-- Two dollars side by side. -/
def pair : Text :=
  ['$', '$']

/-- Whether a text is a display formula: two pairs of dollars around a body that is not empty, where
the second pair is the first one that starts one character or more behind the first pair. -/
def IsDisplay (span : Text) : Prop :=
  ∃ body, body ≠ [] ∧ span = pair ++ body ++ pair ∧
    ∀ n, 1 ≤ n → n < body.length → ¬ pair <+: (body ++ pair).drop n

/-- Whether a text is an inline formula: two dollars around a body that is not empty and holds no
dollar. -/
def IsInline (span : Text) : Prop :=
  ∃ body, body ≠ [] ∧ '$' ∉ body ∧ span = ['$'] ++ body ++ ['$']

/-- Whether a text is a formula of either form. -/
def IsFormula (span : Text) : Prop :=
  IsDisplay span ∨ IsInline span

/-- What a text in front of a pair of dollars starts with does not depend on what follows. -/
theorem dollar_prefix_append (body after : Text) :
    ['$'] <+: body ++ pair ++ after ↔ ['$'] <+: body ++ pair := by
  cases body with
  | nil => simp [pair]
  | cons c body => simp [List.cons_prefix_cons]

/-- The cut is made at the first pair of dollars. -/
theorem cutAtPair_eq_some_iff {t body after : Text} :
    cutAtPair t = some (body, after) ↔
      body ++ pair ++ after = t ∧ ∀ n, n < body.length → ¬ pair <+: (body ++ pair).drop n := by
  constructor
  · intro h
    fun_induction cutAtPair t generalizing body with
    | case1 => simp at h
    | case2 r =>
      obtain ⟨rfl, rfl⟩ := by simpa using h
      exact ⟨rfl, fun n hn => absurd hn (Nat.not_lt_zero n)⟩
    | case3 c r hpair ih =>
      obtain ⟨⟨b, a⟩, hb, hp⟩ := Option.map_eq_some_iff.1 h
      obtain ⟨rfl, rfl⟩ := by simpa using hp
      obtain ⟨rfl, hfirst⟩ := ih hb
      refine ⟨rfl, fun n hn hstart => ?_⟩
      cases n with
      | zero =>
        -- a pair at the first character would have been found there
        obtain ⟨rfl, hdollar⟩ := List.cons_prefix_cons.1 hstart
        obtain ⟨tail, htail⟩ := (dollar_prefix_append b a).2 hdollar
        exact hpair tail rfl htail.symm
      | succ n => exact hfirst n (Nat.lt_of_succ_lt_succ hn) hstart
  · rintro ⟨rfl, hfirst⟩
    induction body with
    | nil => rfl
    | cons c body ih =>
      have hhead : ∀ tail, c = '$' → body ++ pair ++ after ≠ '$' :: tail := by
        rintro tail rfl htail
        refine hfirst 0 (Nat.succ_pos _) (List.cons_prefix_cons.2 ⟨rfl, ?_⟩)
        exact (dollar_prefix_append body after).1 ⟨tail, htail.symm⟩
      have hbody := ih fun n hn => hfirst (n + 1) (Nat.succ_lt_succ hn)
      rw [List.cons_append, List.cons_append, cutAtPair_cons hhead, hbody]
      rfl

/-- A text starts with a display formula exactly where one is found. -/
theorem displayMath?_eq_some_iff {t span after : Text} :
    displayMath? t = some (span, after) ↔ IsDisplay span ∧ span ++ after = t := by
  constructor
  · intro h
    unfold displayMath? at h
    split at h
    · rename_i c r
      obtain ⟨⟨b, a⟩, hb, hp⟩ := Option.map_eq_some_iff.1 h
      obtain ⟨rfl, rfl⟩ := by simpa using hp
      obtain ⟨rfl, hfirst⟩ := cutAtPair_eq_some_iff.1 hb
      -- the closing pair is searched behind the first character, which may be a dollar
      refine ⟨⟨c :: b, List.cons_ne_nil c b, rfl, ?_⟩, by simp [pair]⟩
      intro n hpos hn
      obtain ⟨m, rfl⟩ : ∃ m, n = m + 1 := ⟨n - 1, by omega⟩
      exact hfirst m (Nat.lt_of_succ_lt_succ hn)
    · simp at h
  · rintro ⟨⟨body, hne, rfl, hfirst⟩, rfl⟩
    obtain ⟨c, b, rfl⟩ := List.exists_cons_of_ne_nil hne
    have hcut : cutAtPair (b ++ pair ++ after) = some (b, after) :=
      cutAtPair_eq_some_iff.2
        ⟨rfl, fun n hn => hfirst (n + 1) (Nat.succ_pos n) (Nat.succ_lt_succ hn)⟩
    have htext : pair ++ (c :: b) ++ pair ++ after = '$' :: '$' :: c :: (b ++ pair ++ after) := by
      simp [pair]
    rw [htext, displayMath?, hcut]
    rfl

/-- A text starts with an inline formula exactly where one is found. -/
theorem inlineMath?_eq_some_iff {t span after : Text} :
    inlineMath? t = some (span, after) ↔ IsInline span ∧ span ++ after = t := by
  constructor
  · intro h
    obtain ⟨-, hspan⟩ := inlineMath?_append h after
    unfold inlineMath? at h
    split at h
    · rename_i r
      split at h
      · rename_i c body after' hbody hafter
        obtain ⟨rfl, rfl⟩ := by simpa using h
        refine ⟨⟨c :: body, List.cons_ne_nil c body, fun hmem => ?_, rfl⟩, ?_⟩
        · have hall := List.all_takeWhile (p := (· ≠ '$')) (l := r)
          rw [hbody, List.all_eq_true] at hall
          exact absurd (hall '$' hmem) (by decide)
        · -- what stands in front of the first dollar and what stands behind make up the text
          have hparts := List.takeWhile_append_dropWhile (p := (· ≠ '$')) (l := r)
          rw [hbody, hafter] at hparts
          simp [← hparts]
      · simp at h
    · simp at h
  · rintro ⟨⟨body, hne, hdollar, rfl⟩, rfl⟩
    obtain ⟨c, b, rfl⟩ := List.exists_cons_of_ne_nil hne
    have hplain : ∀ d ∈ c :: b, decide (d ≠ '$') = true := by
      intro d hd
      refine decide_eq_true ?_
      rintro rfl
      exact hdollar hd
    have htext : ['$'] ++ (c :: b) ++ ['$'] ++ after = '$' :: (c :: b ++ '$' :: after) := by
      simp
    have htake : (c :: b ++ '$' :: after).takeWhile (· ≠ '$') = c :: b := by
      rw [List.takeWhile_append_of_pos hplain]
      simp
    have hdrop : (c :: b ++ '$' :: after).dropWhile (· ≠ '$') = '$' :: after := by
      rw [List.dropWhile_append_of_pos hplain]
      simp
    rw [htext, inlineMath?, htake, hdrop]
    rfl

/-- **A text starts with a formula exactly where one is found.** -/
theorem math?_eq_some_iff {t span after : Text} :
    math? t = some (span, after) ↔ IsFormula span ∧ span ++ after = t := by
  constructor
  · intro h
    unfold math? at h
    split at h
    · rename_i found hfound
      obtain rfl := by simpa using h
      obtain ⟨hdisplay, htext⟩ := displayMath?_eq_some_iff.1 hfound
      exact ⟨.inl hdisplay, htext⟩
    · obtain ⟨hinline, htext⟩ := inlineMath?_eq_some_iff.1 h
      exact ⟨.inr hinline, htext⟩
  · rintro ⟨hdisplay | hinline, rfl⟩
    · rw [math?, displayMath?_eq_some_iff.2 ⟨hdisplay, rfl⟩]
    · have hfound : inlineMath? (span ++ after) = some (span, after) :=
        inlineMath?_eq_some_iff.2 ⟨hinline, rfl⟩
      -- an inline formula hides no display form that starts at the same place
      rw [math?, (inlineMath?_append hfound after).1, hfound]

/-- No formula is found at the start of a text just if it starts with none. -/
theorem math?_eq_none_iff {t : Text} :
    math? t = none ↔ ∀ span, IsFormula span → ¬ span <+: t := by
  rw [Option.eq_none_iff_forall_ne_some]
  constructor
  · rintro h span hspan ⟨after, htext⟩
    exact h (span, after) (math?_eq_some_iff.2 ⟨hspan, htext⟩)
  · rintro h ⟨span, after⟩ hfound
    obtain ⟨hspan, htext⟩ := math?_eq_some_iff.1 hfound
    exact h span hspan ⟨after, htext⟩

/-- Where a text could start with either form, the display form is found. -/
theorem isDisplay_of_math? {t span after display : Text} (h : math? t = some (span, after))
    (hdisplay : IsDisplay display) (hstart : display <+: t) : IsDisplay span := by
  obtain ⟨rest, htext⟩ := hstart
  rw [math?, displayMath?_eq_some_iff.2 ⟨hdisplay, htext⟩] at h
  obtain ⟨rfl, -⟩ := by simpa using h
  exact hdisplay

end Text

/-! ## Segmentations -/

/-- Whether a segment may stand in front of the others. A plain segment is not empty, no plain
segment follows, and no formula starts at any of its characters. A formula has one of the two forms,
and it is a display formula if one could start there. -/
def Segment.Fits : Segment → List Segment → Prop
  | .plain p, behind =>
    p ≠ [] ∧ (∀ next ∈ behind.head?, next.isMath = true) ∧
      ∀ front back, p = front ++ back → back ≠ [] →
        ∀ span, Text.IsFormula span → ¬ span <+: back ++ behind.flatMap text
  | .math span, behind =>
    Text.IsFormula span ∧
      ∀ display, Text.IsDisplay display → display <+: span ++ behind.flatMap text →
        Text.IsDisplay span

namespace Text

/-- Whether segments make up the text and each of them may stand in front of those behind it. -/
def IsSegmentation (t : Text) (segments : List Segment) : Prop :=
  segments.flatMap Segment.text = t ∧
    ∀ before segment behind, segments = before ++ segment :: behind → segment.Fits behind

theorem isSegmentation_nil : IsSegmentation [] [] :=
  ⟨rfl, fun before _ _ h => absurd h.symm (by simp)⟩

/-- One more segment in front. -/
theorem isSegmentation_cons {t : Text} {segment : Segment} {behind : List Segment} :
    IsSegmentation t (segment :: behind) ↔
      segment.text ++ behind.flatMap Segment.text = t ∧ segment.Fits behind ∧
        IsSegmentation (behind.flatMap Segment.text) behind := by
  constructor
  · rintro ⟨htext, hfits⟩
    refine ⟨htext, hfits [] segment behind rfl, rfl, ?_⟩
    rintro before other rest rfl
    exact hfits (segment :: before) other rest rfl
  · rintro ⟨htext, hfits, -, hrest⟩
    refine ⟨htext, ?_⟩
    intro before other rest heq
    cases before with
    | nil =>
      obtain ⟨rfl, rfl⟩ := List.cons.inj heq
      exact hfits
    | cons first before =>
      obtain ⟨-, rfl⟩ := List.cons.inj heq
      exact hrest before other rest rfl

/-- Every segment fits to what comes behind it. -/
theorem IsSegmentation.fits_of_mem {t : Text} {segments : List Segment} {segment : Segment}
    (h : IsSegmentation t segments) (hmem : segment ∈ segments) :
    ∃ behind, segment.Fits behind := by
  obtain ⟨before, behind, heq⟩ := List.append_of_mem hmem
  exact ⟨behind, h.2 before segment behind heq⟩

/-! ## Scanning gives a segmentation -/

/-- A formula in front of a segmentation is a segment of its own. -/
theorem IsSegmentation.math {t span after : Text} {behind : List Segment}
    (h : math? t = some (span, after)) (hbehind : IsSegmentation after behind) :
    IsSegmentation t (.math span :: behind) := by
  obtain ⟨hspan, htext⟩ := math?_eq_some_iff.1 h
  have hafter : behind.flatMap Segment.text = after := hbehind.1
  refine isSegmentation_cons.2 ⟨?_, ⟨hspan, ?_⟩, ?_⟩
  · rw [hafter]
    exact htext
  · intro display hdisplay hstart
    rw [hafter, htext] at hstart
    exact isDisplay_of_math? h hdisplay hstart
  · rw [hafter]
    exact hbehind

/-- A plain character in front keeps a segmentation: it joins the plain segment behind it, or is one
by itself. -/
theorem IsSegmentation.plainBefore {c : Char} {r : Text} {behind : List Segment}
    (h : math? (c :: r) = none) (hbehind : IsSegmentation r behind) :
    IsSegmentation (c :: r) (Text.plainBefore c behind) := by
  rw [math?_eq_none_iff] at h
  fun_cases Text.plainBefore c behind with
  -- the character joins the plain stretch behind it, which stays free of formulas
  | case1 p rest =>
    obtain ⟨rfl, ⟨-, hnext, hfree⟩, hrest⟩ := isSegmentation_cons.1 hbehind
    refine isSegmentation_cons.2 ⟨rfl, ⟨List.cons_ne_nil c p, hnext, ?_⟩, hrest⟩
    intro front back heq hne
    cases front with
    | nil =>
      obtain rfl : c :: p = back := heq
      exact h
    | cons d front =>
      obtain ⟨-, rfl⟩ := List.cons.inj heq
      exact hfree front back rfl hne
  | case2 =>
    -- the character is a stretch by itself, in front of a formula or of nothing
    rename_i hplain
    have hr : behind.flatMap Segment.text = r := hbehind.1
    refine isSegmentation_cons.2 ⟨?_, ⟨List.cons_ne_nil c [], ?_, ?_⟩, ?_⟩
    · rw [hr]
      rfl
    · intro next hnext
      obtain ⟨rest, rfl⟩ := List.head?_eq_some_iff.1 hnext
      cases next with
      | plain p => exact (hplain p rest rfl).elim
      | math span => rfl
    · intro front back heq hne
      cases front with
      | nil =>
        obtain rfl : [c] = back := heq
        rw [hr]
        exact h
      | cons d front =>
        obtain ⟨-, hnil⟩ := List.cons.inj heq
        exact absurd (List.append_eq_nil_iff.1 hnil.symm).2 hne
    · rw [hr]
      exact hbehind

/-- The segments of a text are a segmentation of it. -/
theorem isSegmentation_segments (t : Text) : IsSegmentation t (segments t) := by
  fun_induction segments t with
  | case1 t span after h ih => exact IsSegmentation.math h ih
  | case2 => exact isSegmentation_nil
  | case3 c r h ih => exact IsSegmentation.plainBefore h ih

/-- The segments that count as formulas are formulas. -/
theorem isFormula_of_mem_segments {t span : Text} (h : .math span ∈ segments t) :
    IsFormula span := by
  obtain ⟨behind, hfits⟩ := (isSegmentation_segments t).fits_of_mem h
  exact hfits.1

/-! ## Scanning gives the segmentation back -/

/-- A plain stretch in front of a formula, or at the end of the text, is scanned as one segment. -/
theorem segments_append_of_free {p u : Text} (hne : p ≠ [])
    (hnext : ∀ next ∈ (segments u).head?, next.isMath = true)
    (hfree : ∀ front back, p = front ++ back → back ≠ [] → math? (back ++ u) = none) :
    segments (p ++ u) = .plain p :: segments u := by
  induction p with
  | nil => exact absurd rfl hne
  | cons c p ih =>
    have hmath : math? (c :: (p ++ u)) = none := hfree [] (c :: p) rfl (List.cons_ne_nil c p)
    rw [List.cons_append, segments_of_math?_none hmath]
    cases p with
    | nil =>
      -- the character is a segment by itself, since no plain segment follows
      rw [List.nil_append]
      cases hu : segments u with
      | nil => rfl
      | cons next rest =>
        rw [hu] at hnext
        cases next with
        | plain q => exact nomatch hnext (.plain q) rfl
        | math span => rfl
    | cons d p =>
      have hrest : ∀ front back, d :: p = front ++ back → back ≠ [] → math? (back ++ u) = none := by
        intro front back heq
        refine hfree (c :: front) back ?_
        rw [heq, List.cons_append]
      rw [ih (List.cons_ne_nil d p) hrest]
      rfl

/-- Any segmentation of a text is what scanning the text gives. -/
theorem segments_eq {t : Text} {other : List Segment} (h : IsSegmentation t other) :
    segments t = other := by
  induction other generalizing t with
  | nil =>
    obtain rfl : [] = t := h.1
    exact segments_nil
  | cons segment behind ih =>
    obtain ⟨rfl, hfits, hbehind⟩ := isSegmentation_cons.1 h
    have hscan := ih hbehind
    cases segment with
    | plain p =>
      obtain ⟨hne, hnext, hfree⟩ := hfits
      have hnone : ∀ front back, p = front ++ back → back ≠ [] →
          math? (back ++ behind.flatMap Segment.text) = none :=
        fun front back heq hback => math?_eq_none_iff.2 (hfree front back heq hback)
      rw [← hscan] at hnext
      -- no formula starts in the stretch, so the scan goes through it and on
      rw [Segment.text, segments_append_of_free hne hnext hnone, hscan]
    | math span =>
      have hmath : math? (span ++ behind.flatMap Segment.text) =
          some (span, behind.flatMap Segment.text) :=
        math?_eq_some_iff.2 ⟨hfits.1, rfl⟩
      rw [Segment.text, segments_of_math? hmath, hscan]

/-! ## Segments by themselves -/

/-- A formula by itself is that formula. -/
theorem segments_of_isFormula {span : Text} (h : IsFormula span) :
    segments span = [.math span] := by
  have hmath : math? span = some (span, []) := math?_eq_some_iff.2 ⟨h, List.append_nil span⟩
  rw [segments_of_math? hmath, segments_nil]

/-- A plain segment by itself is that plain segment: a formula in it would be one of the whole
text. -/
theorem segments_of_fits {p : Text} {behind : List Segment}
    (h : (Segment.plain p).Fits behind) : segments p = [.plain p] := by
  obtain ⟨hne, -, hfree⟩ := h
  have hfits : (Segment.plain p).Fits [] := by
    refine ⟨hne, nofun, ?_⟩
    intro front back heq hback span hspan hstart
    rw [List.flatMap_nil, List.append_nil] at hstart
    exact hfree front back heq hback span hspan (hstart.trans (List.prefix_append back _))
  exact segments_eq (isSegmentation_cons.2 ⟨List.append_nil p, hfits, isSegmentation_nil⟩)

/-- **A text is cut into segments in just one way.** The scan gives a segmentation of the text, and
every segmentation is this one. So the formulas that are found in the text are those of its
segmentation, in order, and each segment, read by itself, is that segment again. -/
theorem isSegmentation_unique (t : Text) :
    IsSegmentation t (segments t) ∧
      ∀ other, IsSegmentation t other →
        other = segments t ∧ formulas t = other.filterMap Segment.formula? ∧
          (∀ span, .math span ∈ other → segments span = [.math span]) ∧
          ∀ p, .plain p ∈ other → segments p = [.plain p] := by
  refine ⟨isSegmentation_segments t, ?_⟩
  intro other h
  obtain rfl := segments_eq h
  refine ⟨rfl, formulas_eq t, ?_, ?_⟩
  · intro span hspan
    exact segments_of_isFormula (isFormula_of_mem_segments hspan)
  · intro p hp
    obtain ⟨behind, hfits⟩ := h.fits_of_mem hp
    exact segments_of_fits hfits

/-- Formulas of both forms side by side, and a dollar that starts none. -/
def neighbours : Text :=
  "a $x$$$y$b$$ $".toList

/-- An inline formula next to one on display that has a dollar in it, and a dollar by itself. -/
theorem segments_neighbours :
    segments neighbours =
      [.plain "a ".toList, .math "$x$".toList, .math "$$y$b$$".toList, .plain " $".toList] :=
  calc segments neighbours
    _ = plainBefore 'a' (plainBefore ' ' (segments "$x$$$y$b$$ $".toList)) := by
      rw [← segments_of_math?_none (c := ' ') (by decide),
        ← segments_of_math?_none (c := 'a') (by decide)]
      rfl
    _ = plainBefore 'a' (plainBefore ' ' (.math "$x$".toList ::
          .math "$$y$b$$".toList :: segments " $".toList)) := by
      have hinline : math? "$x$$$y$b$$ $".toList = some ("$x$".toList, "$$y$b$$ $".toList) := by
        decide
      have hdisplay : math? "$$y$b$$ $".toList = some ("$$y$b$$".toList, " $".toList) := by
        decide
      rw [segments_of_math? hinline, segments_of_math? hdisplay]
    _ = _ := by
      have hdollar : segments " $".toList = plainBefore ' ' (plainBefore '$' (segments [])) := by
        rw [← segments_of_math?_none (c := '$') (by decide),
          ← segments_of_math?_none (c := ' ') (by decide)]
        rfl
      rw [hdollar, segments_nil]
      rfl

/-- What the scan cuts there is the segmentation. -/
theorem isSegmentation_neighbours :
    let cut : List Segment :=
      [.plain "a ".toList, .math "$x$".toList, .math "$$y$b$$".toList, .plain " $".toList]
    IsSegmentation neighbours cut ∧ .math "$$y$b$$".toList ∈ cut ∧ .plain " $".toList ∈ cut ∧
      cut = segments neighbours ∧ formulas neighbours = ["$x$".toList, "$$y$b$$".toList] ∧
      segments "$$y$b$$".toList = [.math "$$y$b$$".toList] ∧
      segments " $".toList = [.plain " $".toList] := by
  intro cut
  have hcut : IsSegmentation neighbours cut := by
    have h := (isSegmentation_unique neighbours).1
    rwa [segments_neighbours] at h
  have hformula : .math "$$y$b$$".toList ∈ cut := by decide
  have hplain : .plain " $".toList ∈ cut := by decide
  obtain ⟨hscan, hformulas, hmath, hrest⟩ := (isSegmentation_unique neighbours).2 cut hcut
  exact ⟨hcut, hformula, hplain, hscan, hformulas, hmath _ hformula, hrest _ hplain⟩

end Text

end MarkTex
