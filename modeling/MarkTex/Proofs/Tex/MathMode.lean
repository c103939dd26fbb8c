import MarkTex.Proofs.Math.Segmentation
import MarkTex.Proofs.Tex.Decode

/-!
# Formulas as TeX reads them

TeX reads a backslash together with the character behind it, and every other dollar opens or closes
a formula. Formulas are found without regard to backslashes, so the two readings need not agree
(`not_delimiters_escapedDollar`). They do exactly if each formula closes where it should (`Closes`):
each dollar in its body is taken by a backslash, and no backslash in its body takes the dollar
behind it (`bareDollars_escapeAroundMath_iff`). What stands around the formulas never matters.

## Shape of the proof

Whether a backslash takes the next character is told from the characters before it. Neither escaped
text nor a formula takes a character behind it, so each segment is read as it is by itself
(`bareDollars_flatMap`). Modes follow the dollars that are not taken (`isDelimiter_settings`), and a
text without any changes no mode (`settings_append`), so both readings go wrong at the same
formulas.
-/

namespace MarkTex.Tex

/-! ## Dollars that no backslash takes -/

/-- Whether a backslash takes the character behind a text, if `taken` tells this of the first
character of the text. -/
def takenBehind (taken : Bool) : Text → Bool
  | [] => taken
  | c :: r => takenBehind (!taken && c == '\\') r

/-- For each character of a text, whether it is a dollar that no backslash takes. `taken` tells
whether one takes the first character. -/
def bareDollars (taken : Bool) : Text → List Bool
  | [] => []
  | c :: r => (!taken && c == '$') :: bareDollars (!taken && c == '\\') r

/-- Whether a character is taken behind two texts is told by reading them one after the other. -/
theorem takenBehind_append (taken : Bool) (s t : Text) :
    takenBehind taken (s ++ t) = takenBehind (takenBehind taken s) t := by
  induction s generalizing taken with
  | nil => rfl
  | cons c s ih => exact ih _

/-- The bare dollars of two texts are those of each, where the second is read behind the first. -/
theorem bareDollars_append (taken : Bool) (s t : Text) :
    bareDollars taken (s ++ t) = bareDollars taken s ++ bareDollars (takenBehind taken s) t := by
  induction s generalizing taken with
  | nil => rfl
  | cons c s ih =>
    rw [List.cons_append, bareDollars, ih]
    rfl

/-- Every character is either a bare dollar or not. -/
theorem length_bareDollars (taken : Bool) (t : Text) : (bareDollars taken t).length = t.length := by
  induction t generalizing taken with
  | nil => rfl
  | cons c t ih => rw [bareDollars, List.length_cons, ih, List.length_cons]

/-- Whether every dollar of a text is taken, told without regard to where it is not. -/
theorem bareDollars_eq_replicate_iff {t : Text} :
    bareDollars false t = List.replicate t.length false ↔ true ∉ bareDollars false t := by
  rw [List.eq_replicate_iff, length_bareDollars]
  constructor
  · rintro ⟨-, hall⟩ hmem
    exact absurd (hall true hmem) (by decide)
  · intro hmem
    refine ⟨rfl, fun bare hbare => ?_⟩
    cases bare with
    | false => rfl
    | true => exact absurd hbare hmem

/-! ## Formulas and their dollars -/

/-- The number of dollars that a formula opens with, and that it closes with. -/
def markLength : Text → Nat
  | '$' :: '$' :: _ => 2
  | _ => 1

/-- What stands between the dollars that open a formula and those that close it. -/
def formulaBody (span : Text) : Text :=
  (span.drop (markLength span)).take (span.length - 2 * markLength span)

/-- Whether a formula closes where it should: each dollar in its body is taken, and no backslash in
its body takes the dollar behind it. -/
def Closes (span : Text) : Prop :=
  true ∉ bareDollars false (formulaBody span) ∧ takenBehind false (formulaBody span) = false

instance (span : Text) : Decidable (Closes span) :=
  inferInstanceAs (Decidable (_ ∧ _))

/-- For each character that a segment is written with, whether it opens or closes a formula. -/
def delimiters : Segment → List Bool
  | .plain t => List.replicate (escape t).length false
  | .math span =>
    List.replicate (markLength span) true ++ List.replicate (formulaBody span).length false ++
      List.replicate (markLength span) true

/-- For each character that a segment is written with, whether it is a dollar that no backslash
takes when the segment is read by itself. Escaped text holds none. -/
def ownDollars : Segment → List Bool
  | .plain t => List.replicate (escape t).length false
  | .math span => bareDollars false span

/-- A formula is its body between one dollar and another, or between two and two. -/
theorem exists_marks {span : Text} (h : Text.IsFormula span) :
    (markLength span = 1 ∨ markLength span = 2) ∧
      span = List.replicate (markLength span) '$' ++ formulaBody span ++
        List.replicate (markLength span) '$' := by
  rcases h with ⟨body, -, rfl, -⟩ | ⟨body, hne, hdollar, rfl⟩
  · have hbody : formulaBody (Text.pair ++ body ++ Text.pair) = body := by
      simp [formulaBody, Text.pair, markLength]
    rw [hbody]
    exact ⟨.inr rfl, rfl⟩
  · obtain ⟨c, r, rfl⟩ := List.exists_cons_of_ne_nil hne
    -- the body of an inline formula does not start with a dollar, so one dollar marks it
    have hmark : markLength (['$'] ++ (c :: r) ++ ['$']) = 1 := by
      have hc : c ≠ '$' := by
        rintro rfl
        exact hdollar List.mem_cons_self
      simp [markLength, hc]
    have hbody : formulaBody (['$'] ++ (c :: r) ++ ['$']) = c :: r := by
      rw [formulaBody, hmark]
      simp
    rw [hbody, hmark]
    exact ⟨.inl rfl, rfl⟩

/-- The dollars at the end of a formula take no character behind them. -/
theorem takenBehind_marks (taken : Bool) {n : Nat} (h : n = 1 ∨ n = 2) :
    takenBehind taken (List.replicate n '$') = false := by
  rcases h with rfl | rfl <;> cases taken <;> rfl

/-- All the dollars at the end of a formula are left to themselves, unless a backslash takes the
first of them. -/
theorem bareDollars_marks_iff (taken : Bool) {n : Nat} (h : n = 1 ∨ n = 2) :
    bareDollars taken (List.replicate n '$') = List.replicate n true ↔ taken = false := by
  rcases h with rfl | rfl <;> cases taken <;> decide

/-- A formula takes no character behind it. -/
theorem takenBehind_formula {span : Text} (h : Text.IsFormula span) :
    takenBehind false span = false := by
  obtain ⟨hmark, hspan⟩ := exists_marks h
  rw [hspan, takenBehind_append]
  exact takenBehind_marks _ hmark

/-- The dollars of a formula that are not taken are those around its body exactly if it closes where
it should. -/
theorem bareDollars_formula_iff {span : Text} (h : Text.IsFormula span) :
    bareDollars false span = delimiters (.math span) ↔ Closes span := by
  obtain ⟨hmark, hspan⟩ := exists_marks h
  have hread : bareDollars false span =
      List.replicate (markLength span) true ++ bareDollars false (formulaBody span) ++
        bareDollars (takenBehind false (formulaBody span))
          (List.replicate (markLength span) '$') := by
    conv_lhs => rw [hspan]
    rw [bareDollars_append, bareDollars_append, takenBehind_append,
      (bareDollars_marks_iff false hmark).2 rfl, takenBehind_marks false hmark]
  rw [delimiters, hread]
  constructor
  · intro heq
    -- the body and the marks have the same lengths on both sides, so they agree one by one
    obtain ⟨hfront, hback⟩ := List.append_inj heq (by simp [length_bareDollars])
    exact ⟨bareDollars_eq_replicate_iff.1 (List.append_cancel_left hfront),
      (bareDollars_marks_iff _ hmark).1 hback⟩
  · rintro ⟨hbare, htaken⟩
    rw [bareDollars_eq_replicate_iff.2 hbare, (bareDollars_marks_iff _ hmark).2 htaken]

/-! ## Escaped text -/

/-- An escaped character leaves no dollar to itself and takes no character behind it. -/
theorem bareDollars_escapeChar (c : Char) :
    bareDollars false (escapeChar c) = List.replicate (escapeChar c).length false ∧
      takenBehind false (escapeChar c) = false := by
  -- the signs that are escaped are few, and read one by one
  have hspecials : (specials.all fun c =>
      bareDollars false (escapeChar c) == List.replicate (escapeChar c).length false &&
        !takenBehind false (escapeChar c)) = true := by
    decide
  by_cases h : c ∈ specials
  · have hc := List.all_eq_true.1 hspecials c h
    rw [Bool.and_eq_true, Bool.not_eq_true'] at hc
    exact ⟨eq_of_beq hc.1, hc.2⟩
  · rw [escapeChar_of_not_mem h]
    have hdollar : c ≠ '$' := by
      rintro rfl
      exact h (by decide)
    have hbackslash : c ≠ '\\' := by
      rintro rfl
      exact h (by decide)
    simp [bareDollars, takenBehind, hdollar, hbackslash]

/-- Escaped text leaves no dollar to itself and takes no character behind it. -/
theorem bareDollars_escape (t : Text) :
    bareDollars false (escape t) = List.replicate (escape t).length false ∧
      takenBehind false (escape t) = false := by
  induction t with
  | nil => exact ⟨rfl, rfl⟩
  | cons c t ih =>
    obtain ⟨hbare, htaken⟩ := bareDollars_escapeChar c
    have hcons : escape (c :: t) = escapeChar c ++ escape t := rfl
    rw [hcons, bareDollars_append, takenBehind_append, hbare, htaken, ih.1, ih.2,
      List.length_append, List.replicate_append_replicate]
    exact ⟨rfl, rfl⟩

/-! ## Segments behind each other -/

/-- Each segment is read as it is by itself. -/
theorem bareDollars_flatMap {segments : List Segment}
    (h : ∀ span, .math span ∈ segments → Text.IsFormula span) :
    bareDollars false (segments.flatMap escapeSegment) = segments.flatMap ownDollars := by
  induction segments with
  | nil => rfl
  | cons segment behind ih =>
    have hrest := ih fun span hspan => h span (List.mem_cons_of_mem segment hspan)
    rw [List.flatMap_cons, List.flatMap_cons, bareDollars_append]
    cases segment with
    | plain t =>
      obtain ⟨hbare, htaken⟩ := bareDollars_escape t
      rw [escapeSegment, htaken, hrest, hbare, ownDollars]
    | math span =>
      rw [escapeSegment, takenBehind_formula (h span List.mem_cons_self), hrest, ownDollars]

/-- What is put together from pieces of the same lengths is the same exactly if its pieces are. -/
theorem flatMap_inj_of_length {α β : Type} {f g : α → List β} {items : List α}
    (h : ∀ item ∈ items, (f item).length = (g item).length) :
    items.flatMap f = items.flatMap g ↔ ∀ item ∈ items, f item = g item := by
  induction items with
  | nil => exact ⟨fun _ => nofun, fun _ => rfl⟩
  | cons item items ih =>
    rw [List.forall_mem_cons] at h ⊢
    rw [List.flatMap_cons, List.flatMap_cons, ← ih h.2]
    constructor
    · intro heq
      exact List.append_inj heq h.1
    · rintro ⟨hitem, hitems⟩
      rw [hitem, hitems]

/-- The dollars of segments that are not taken are those that open and close formulas exactly if
each formula closes where it should. -/
theorem bareDollars_flatMap_iff {segments : List Segment}
    (h : ∀ span, .math span ∈ segments → Text.IsFormula span) :
    bareDollars false (segments.flatMap escapeSegment) = segments.flatMap delimiters ↔
      ∀ span, .math span ∈ segments → Closes span := by
  rw [bareDollars_flatMap h, flatMap_inj_of_length]
  · -- segment by segment: plain text reads as it should, and a formula just if it closes
    constructor
    · intro heq span hspan
      exact (bareDollars_formula_iff (h span hspan)).1 (heq (.math span) hspan)
    · intro hcloses segment hsegment
      cases segment with
      | plain t => rfl
      | math span => exact (bareDollars_formula_iff (h span hsegment)).2 (hcloses span hsegment)
  · intro segment hsegment
    cases segment with
    | plain t => rfl
    | math span =>
      have hlength := congrArg List.length (exists_marks (h span hsegment)).2
      simpa [ownDollars, length_bareDollars, delimiters] using hlength

/-! ## Modes -/

/-- What TeX is reading. -/
inductive Mode where
  | text
  | inline
  | display
  deriving DecidableEq

/-- How TeX reads a character: as text, as a part of a formula, or as a dollar that opens or closes
one. -/
inductive Setting where
  | text
  | formula
  | delimiter
  deriving DecidableEq

/-- How a character is read that neither opens nor closes a formula. -/
def Mode.setting : Mode → Setting
  | text => .text
  | inline => .formula
  | display => .formula

/-- How each character of a text is read. In text two dollars open a display formula, which two
dollars close, and one dollar opens an inline formula, which one dollar closes. A single dollar in a
display formula is a mistake, and closes it as well. -/
def settings : Mode → Text → List Setting
  | _, [] => []
  | mode, '\\' :: _ :: r => mode.setting :: mode.setting :: settings mode r
  | .text, '$' :: '$' :: r => .delimiter :: .delimiter :: settings .display r
  | .text, '$' :: r => .delimiter :: settings .inline r
  | .inline, '$' :: r => .delimiter :: settings .text r
  | .display, '$' :: '$' :: r => .delimiter :: .delimiter :: settings .text r
  | .display, '$' :: r => .delimiter :: settings .text r
  | mode, _ :: r => mode.setting :: settings mode r

/-- How the characters that a segment is written with should be read. -/
def segmentSettings : Segment → List Setting
  | .plain t => List.replicate (escape t).length .text
  | .math span =>
    List.replicate (markLength span) .delimiter ++
      List.replicate (formulaBody span).length .formula ++
      List.replicate (markLength span) .delimiter

/-- Whether a character opens or closes a formula. -/
def isDelimiter (setting : Setting) : Bool :=
  setting == .delimiter

/-- No character opens or closes a formula by the mode that it is set in. -/
theorem isDelimiter_setting (mode : Mode) : isDelimiter mode.setting = false := by
  cases mode <;> rfl

/-- The dollars that open and close formulas are those that no backslash takes. -/
theorem isDelimiter_settings (mode : Mode) (t : Text) :
    (settings mode t).map isDelimiter = bareDollars false t := by
  fun_induction settings mode t with
  | case1 => rfl
  | case2 mode c r ih =>
    rw [List.map_cons, List.map_cons, ih, isDelimiter_setting]
    rfl
  | case3 r ih | case6 r ih =>
    rw [List.map_cons, List.map_cons, ih]
    rfl
  | case4 r _ ih | case5 r ih | case7 r _ ih =>
    rw [List.map_cons, ih]
    rfl
  | case8 mode c r hescape _ htext hinline _ hdisplay ih =>
    have hdollar : c ≠ '$' := by
      rintro rfl
      cases mode with
      | text => exact htext rfl rfl
      | inline => exact hinline rfl rfl
      | display => exact hdisplay rfl rfl
    rw [List.map_cons, ih, isDelimiter_setting]
    by_cases hbackslash : c = '\\'
    · -- such a backslash is the last character and takes none
      cases r with
      | nil =>
        subst hbackslash
        rfl
      | cons d r => exact (hescape d r hbackslash rfl).elim
    · rw [bareDollars, beq_eq_false_iff_ne.2 hdollar, beq_eq_false_iff_ne.2 hbackslash]
      rfl

/-! ## Modes of segments -/

/-- A character that is neither a backslash nor a dollar changes no mode. -/
theorem settings_plain {c : Char} (hbackslash : c ≠ '\\') (hdollar : c ≠ '$') (mode : Mode)
    (r : Text) : settings mode (c :: r) = mode.setting :: settings mode r := by
  rw [settings.eq_def]
  split <;> simp_all

/-- A single dollar in text opens an inline formula. -/
theorem settings_dollar {c : Char} (hdollar : c ≠ '$') (r : Text) :
    settings .text ('$' :: c :: r) = .delimiter :: settings .inline (c :: r) := by
  rw [settings]
  rintro _ ⟨⟩
  exact hdollar rfl

/-- A text whose dollars are all taken, and that takes no character behind it, changes no mode. -/
theorem settings_append (mode : Mode) (r : Text) :
    ∀ t : Text, true ∉ bareDollars false t → takenBehind false t = false →
      settings mode (t ++ r) = List.replicate t.length mode.setting ++ settings mode r
  | [], _, _ => rfl
  | [c], hbare, htaken => by
    have hdollar : c ≠ '$' := by
      rintro rfl
      exact hbare List.mem_cons_self
    have hbackslash : c ≠ '\\' := by
      rintro rfl
      exact nomatch htaken
    exact settings_plain hbackslash hdollar mode r
  | c :: d :: t, hbare, htaken => by
    by_cases hbackslash : c = '\\'
    · -- the backslash takes the next character, so both are passed over
      subst hbackslash
      have hrest : true ∉ bareDollars false t := fun hmem =>
        hbare (List.mem_cons_of_mem _ (List.mem_cons_of_mem _ hmem))
      rw [List.cons_append, List.cons_append, settings, settings_append mode r t hrest htaken]
      rfl
    · have hdollar : c ≠ '$' := by
        rintro rfl
        exact hbare List.mem_cons_self
      rw [bareDollars, beq_eq_false_iff_ne.2 hbackslash, Bool.and_false] at hbare
      rw [takenBehind, beq_eq_false_iff_ne.2 hbackslash, Bool.and_false] at htaken
      have hrest : true ∉ bareDollars false (d :: t) := fun hmem =>
        hbare (List.mem_cons_of_mem _ hmem)
      rw [List.cons_append, settings_plain hbackslash hdollar,
        settings_append mode r (d :: t) hrest htaken]
      rfl

/-- Escaped text is read as text, and leaves the mode as it is. -/
theorem settings_escape (t r : Text) :
    settings .text (escape t ++ r) =
      List.replicate (escape t).length .text ++ settings .text r := by
  obtain ⟨hbare, htaken⟩ := bareDollars_escape t
  exact settings_append .text r (escape t) (bareDollars_eq_replicate_iff.1 hbare) htaken

/-- A formula that closes where it should is read as a formula, and text follows it. -/
theorem settings_formula {span : Text} (h : Text.IsFormula span) (hcloses : Closes span)
    (r : Text) : settings .text (span ++ r) = segmentSettings (.math span) ++ settings .text r := by
  obtain ⟨hmark, hspan⟩ := exists_marks h
  obtain ⟨hbare, htaken⟩ := hcloses
  have hbody : ∀ (mode : Mode) (r : Text), settings mode (formulaBody span ++ r) =
      List.replicate (formulaBody span).length mode.setting ++ settings mode r :=
    fun mode r => settings_append mode r (formulaBody span) hbare htaken
  rcases hmark with hmark | hmark
  · rw [hmark] at hspan
    have htext : span ++ r = '$' :: (formulaBody span ++ '$' :: r) := by
      conv_lhs => rw [hspan]
      simp
    have hopen : settings .text ('$' :: (formulaBody span ++ '$' :: r)) =
        .delimiter :: settings .inline (formulaBody span ++ '$' :: r) := by
      -- a body that is empty or starts with a dollar would make it open with two dollars
      cases hempty : formulaBody span with
      | nil =>
        rw [hempty] at hspan
        rw [hspan] at hmark
        exact absurd hmark (by decide)
      | cons c body =>
        rw [hempty] at hbare
        refine settings_dollar ?_ (body ++ '$' :: r)
        rintro rfl
        exact hbare List.mem_cons_self
    rw [htext, hopen, hbody .inline, segmentSettings, hmark]
    simp [settings, Mode.setting]
  · rw [hmark] at hspan
    have htext : span ++ r = '$' :: '$' :: (formulaBody span ++ '$' :: '$' :: r) := by
      conv_lhs => rw [hspan]
      simp [List.replicate]
    rw [htext, settings, hbody .display, segmentSettings, hmark]
    simp [List.replicate, settings, Mode.setting]

/-- Segments whose formulas close where they should are read as such. -/
theorem settings_flatMap {segments : List Segment}
    (h : ∀ span, .math span ∈ segments → Text.IsFormula span)
    (hcloses : ∀ span, .math span ∈ segments → Closes span) :
    settings .text (segments.flatMap escapeSegment) = segments.flatMap segmentSettings := by
  induction segments with
  | nil => rfl
  | cons segment behind ih =>
    have hbehind := ih (fun span hspan => h span (List.mem_cons_of_mem segment hspan))
      fun span hspan => hcloses span (List.mem_cons_of_mem segment hspan)
    rw [List.flatMap_cons, List.flatMap_cons]
    cases segment with
    | plain t => rw [escapeSegment, settings_escape, hbehind, segmentSettings]
    | math span =>
      rw [escapeSegment, settings_formula (h span List.mem_cons_self)
        (hcloses span List.mem_cons_self), hbehind]

/-- The characters that should be read as opening and closing formulas are their dollars. -/
theorem isDelimiter_segmentSettings (segment : Segment) :
    (segmentSettings segment).map isDelimiter = delimiters segment := by
  cases segment <;> simp [segmentSettings, delimiters, isDelimiter]

/-- **TeX finds the same formulas exactly if each of them closes where it should.** Whatever the
formulas hold, the dollars that no backslash takes are those that none takes when each segment is
read by itself, so none of them stands in the escaped text around. They are the dollars that the
formulas open and close with exactly if each formula closes where it should. And exactly then TeX
reads each formula as one, from its own dollars to its own dollars, and all the rest as text. -/
theorem bareDollars_escapeAroundMath_iff (t : Text) :
    bareDollars false (escapeAroundMath t) = (Text.segments t).flatMap ownDollars ∧
      (bareDollars false (escapeAroundMath t) = (Text.segments t).flatMap delimiters ↔
        ∀ span ∈ Text.formulas t, Closes span) ∧
      (settings .text (escapeAroundMath t) = (Text.segments t).flatMap segmentSettings ↔
        ∀ span ∈ Text.formulas t, Closes span) := by
  have hformulas : ∀ span, .math span ∈ Text.segments t → Text.IsFormula span :=
    fun span => Text.isFormula_of_mem_segments
  have hiff : bareDollars false (escapeAroundMath t) = (Text.segments t).flatMap delimiters ↔
      ∀ span ∈ Text.formulas t, Closes span := by
    simp only [Text.mem_formulas]
    exact bareDollars_flatMap_iff hformulas
  refine ⟨bareDollars_flatMap hformulas, hiff, ?_, ?_⟩
  · intro hread
    -- the dollars that open and close formulas are told from how the characters are read
    have hdelimiters := congrArg (List.map isDelimiter) hread
    rw [isDelimiter_settings, List.map_flatMap] at hdelimiters
    refine hiff.1 (hdelimiters.trans ?_)
    exact congrArg (List.flatMap · (Text.segments t)) (funext isDelimiter_segmentSettings)
  · intro hcloses
    refine settings_flatMap hformulas fun span hspan => ?_
    exact hcloses span (Text.mem_formulas.2 hspan)

/-- A formula whose last dollar is escaped. -/
def escapedDollar : Text :=
  "$a\\$".toList

/-- A backslash in a formula can take the dollar that should close it, so the formula goes on for
TeX. -/
theorem not_delimiters_escapedDollar :
    ¬ ∀ t : Text,
      bareDollars false (escapeAroundMath t) = (Text.segments t).flatMap delimiters := by
  intro h
  have hsegments : Text.segments escapedDollar = [.math escapedDollar] := by
    have hmath : Text.math? escapedDollar = some (escapedDollar, []) := by decide
    rw [Text.segments_of_math? hmath, Text.segments_nil]
  have hdollars := h escapedDollar
  rw [escapeAroundMath, hsegments] at hdollars
  exact absurd hdollars (by decide)

end MarkTex.Tex
