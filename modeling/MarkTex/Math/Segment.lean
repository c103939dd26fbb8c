import MarkTex.Text.Basic

/-!
# Math segments

A text is read as plain stretches and formulas. A formula is `$$…$$`, which may hold anything and
ends at the first pair of dollars, or `$…$`, which holds no dollar; neither is empty. Formulas are
found from left to right, and the display form is tried first.
-/

namespace MarkTex

/-- A stretch of a text: plain text, or a formula with its dollars. -/
inductive Segment where
  | plain (text : Text)
  | math (text : Text)
  deriving DecidableEq, Repr

namespace Segment

/-- The characters of a segment. -/
def text : Segment → Text
  | plain t => t
  | math t => t

/-- Whether a segment is a formula. -/
def isMath : Segment → Bool
  | plain _ => false
  | math _ => true

end Segment

namespace Text

/-! ## One formula -/

/-- The texts before and after the first pair of dollars. -/
def cutAtPair : Text → Option (Text × Text)
  | [] => none
  | '$' :: '$' :: r => some ([], r)
  | c :: r => (cutAtPair r).map fun (body, after) => (c :: body, after)

/-- The display formula that the text starts with, and what follows it. -/
def displayMath? : Text → Option (Text × Text)
  | '$' :: '$' :: c :: r =>
    (cutAtPair r).map fun (body, after) => ('$' :: '$' :: c :: (body ++ ['$', '$']), after)
  | _ => none

/-- The inline formula that the text starts with, and what follows it. -/
def inlineMath? : Text → Option (Text × Text)
  | '$' :: r =>
    match r.takeWhile (· ≠ '$'), r.dropWhile (· ≠ '$') with
    | c :: body, '$' :: after => some ('$' :: c :: (body ++ ['$']), after)
    | _, _ => none
  | _ => none

/-- The formula that the text starts with, and what follows it. -/
def math? (t : Text) : Option (Text × Text) :=
  match displayMath? t with
  | some found => some found
  | none => inlineMath? t

theorem append_of_cutAtPair {t body after : Text} (h : cutAtPair t = some (body, after)) :
    body ++ '$' :: '$' :: after = t := by
  fun_induction cutAtPair t generalizing body with
  | case1 => simp at h
  | case2 r => simp_all
  | case3 c r _ ih =>
    obtain ⟨⟨b, a⟩, hb, hp⟩ := Option.map_eq_some_iff.1 h
    obtain ⟨rfl, rfl⟩ := by simpa using hp
    simp [ih hb]

/-- A display formula opens and closes with a pair of dollars around at least one character. -/
theorem displayMath?_eq_some {t span after : Text} (h : displayMath? t = some (span, after)) :
    ∃ c body, span = '$' :: '$' :: c :: (body ++ ['$', '$']) ∧ span ++ after = t := by
  unfold displayMath? at h
  split at h
  · rename_i c r
    obtain ⟨⟨b, a⟩, hb, hp⟩ := Option.map_eq_some_iff.1 h
    obtain ⟨rfl, rfl⟩ := by simpa using hp
    exact ⟨c, b, rfl, by simp [← append_of_cutAtPair hb]⟩
  · simp at h

/-- An inline formula opens and closes with a dollar around at least one character. -/
theorem inlineMath?_eq_some {t span after : Text} (h : inlineMath? t = some (span, after)) :
    ∃ c body, span = '$' :: c :: (body ++ ['$']) ∧ span ++ after = t := by
  unfold inlineMath? at h
  split at h
  · rename_i r
    split at h
    · rename_i c body after' hc ha
      obtain ⟨rfl, rfl⟩ := by simpa using h
      refine ⟨c, body, rfl, ?_⟩
      have := List.takeWhile_append_dropWhile (p := (· ≠ '$')) (l := r)
      rw [hc, ha] at this
      simp [← this]
    · simp at h
  · simp at h

/-- A formula is not empty, and together with what follows it makes up the text. -/
theorem math?_eq_some {t span after : Text} (h : math? t = some (span, after)) :
    span ≠ [] ∧ span ++ after = t := by
  unfold math? at h
  split at h
  · rename_i found hf
    obtain rfl := by simpa using h
    obtain ⟨c, body, rfl, ht⟩ := displayMath?_eq_some hf
    exact ⟨by simp, ht⟩
  · obtain ⟨c, body, rfl, ht⟩ := inlineMath?_eq_some h
    exact ⟨by simp, ht⟩

theorem math?_length {t span after : Text} (h : math? t = some (span, after)) :
    after.length < t.length := by
  obtain ⟨hne, ht⟩ := math?_eq_some h
  have := List.length_pos_iff.2 hne
  simp only [← ht, List.length_append]
  omega

/-! ## A whole text -/

/-- A plain character before segments joins the plain segment in front, if there is one. -/
def plainBefore (c : Char) : List Segment → List Segment
  | .plain t :: rest => .plain (c :: t) :: rest
  | segments => .plain [c] :: segments

/-- The segments of a text, from left to right. -/
def segments (t : Text) : List Segment :=
  match _hm : math? t with
  | some (span, after) => .math span :: segments after
  | none =>
    match t with
    | [] => []
    | c :: r => plainBefore c (segments r)
termination_by t.length
decreasing_by
  · exact math?_length ‹_›
  · simp

/-- The formulas of a text, from left to right: each is searched for behind the one before it. -/
def formulas (t : Text) : List Text :=
  match _hm : math? t with
  | some (span, after) => span :: formulas after
  | none =>
    match t with
    | [] => []
    | _ :: r => formulas r
termination_by t.length
decreasing_by
  · exact math?_length ‹_›
  · simp

/-- Whether the text holds a formula. -/
def hasMath (t : Text) : Bool :=
  (segments t).any Segment.isMath

end Text

end MarkTex
