import MarkTex.Text.Basic

/-!
# Stripping markers

A cell is measured as it will look, so the markers of bold, italic, struck-out, code and link text
are taken out first. The rules run one after the other, each on what the one before it left.
-/

namespace MarkTex.Text

/-- The text without any asterisk. -/
def dropAsterisks (t : Text) : Text :=
  t.filter (· ≠ '*')

/-! ## Text between two equal markers -/

/-- The texts before and after the first `mark`, if no line feed stands before it. -/
def cutOnLine (mark : Text) : Text → Option (Text × Text)
  | [] => none
  | c :: r =>
    if mark.isPrefixOf (c :: r) then some ([], (c :: r).drop mark.length)
    else if c = '\n' then none
    else (cutOnLine mark r).map fun (body, after) => (c :: body, after)

/-- The text between the `mark` that the text starts with and the next one on the line, and what
follows. There is at least one character in between. -/
def enclosed? (mark t : Text) : Option (Text × Text) :=
  if mark.isPrefixOf t then
    match t.drop mark.length with
    | [] => none
    | c :: r =>
      if c = '\n' then none
      else (cutOnLine mark r).map fun (body, after) => (c :: body, after)
  else none

theorem cutOnLine_length {mark t body after : Text} (h : cutOnLine mark t = some (body, after)) :
    after.length ≤ t.length := by
  induction t generalizing body with
  | nil => simp [cutOnLine] at h
  | cons c r ih =>
    unfold cutOnLine at h
    split at h
    · obtain ⟨-, rfl⟩ := by simpa using h
      simp
    · split at h
      · simp at h
      · obtain ⟨⟨b, a⟩, hb, hp⟩ := Option.map_eq_some_iff.1 h
        obtain ⟨-, rfl⟩ := by simpa using hp
        have := ih hb
        simp only [List.length_cons]
        omega

theorem enclosed?_length {mark t body after : Text} (h : enclosed? mark t = some (body, after)) :
    after.length < t.length := by
  unfold enclosed? at h
  split at h
  · split at h
    · simp at h
    · rename_i c r hr
      split at h
      · simp at h
      · obtain ⟨⟨b, a⟩, hb, hp⟩ := Option.map_eq_some_iff.1 h
        obtain ⟨-, rfl⟩ := by simpa using hp
        have h₁ := cutOnLine_length hb
        have h₂ : (t.drop mark.length).length = r.length + 1 := by rw [hr]; rfl
        have h₃ : (t.drop mark.length).length ≤ t.length := by simp
        omega
  · simp at h

/-- The text with the `mark`s taken off every stretch that they enclose, from left to right. -/
def unmark (mark t : Text) : Text :=
  match _hm : enclosed? mark t with
  | some (body, after) => body ++ unmark mark after
  | none =>
    match t with
    | [] => []
    | c :: r => c :: unmark mark r
termination_by t.length
decreasing_by
  · exact enclosed?_length ‹_›
  · simp

/-! ## Links -/

/-- The label of the inline link that the text starts with, and what follows the link. -/
def link? : Text → Option (Text × Text)
  | '[' :: r =>
    let label := r.takeWhile (· ≠ ']')
    match r.dropWhile (· ≠ ']') with
    | ']' :: '(' :: s =>
      match s.dropWhile (· ≠ ')') with
      | ')' :: after =>
        if label.isEmpty || (s.takeWhile (· ≠ ')')).isEmpty then none else some (label, after)
      | _ => none
    | _ => none
  | _ => none

theorem link?_length {t label after : Text} (h : link? t = some (label, after)) :
    after.length < t.length := by
  unfold link? at h
  split at h
  · rename_i r
    dsimp only at h
    split at h
    · rename_i s hs
      split at h
      · rename_i a ha
        split at h
        · simp at h
        · obtain ⟨-, rfl⟩ := by simpa using h
          have h₁ := (List.dropWhile_sublist (· ≠ ')') (l := s)).length_le
          have h₂ := (List.dropWhile_sublist (· ≠ ']') (l := r)).length_le
          rw [ha] at h₁
          rw [hs] at h₂
          simp only [List.length_cons] at *
          omega
      · simp at h
    · simp at h
  · simp at h

/-- The text with every inline link reduced to its label, from left to right. -/
def unlink (t : Text) : Text :=
  match _hm : link? t with
  | some (label, after) => label ++ unlink after
  | none =>
    match t with
    | [] => []
    | c :: r => c :: unlink r
termination_by t.length
decreasing_by
  · exact link?_length ‹_›
  · simp

/-- The text without markers of bold, italic, struck-out, code and link text. -/
def stripMarkers (t : Text) : Text :=
  unlink (unmark ['\x60'] (unmark ['~', '~'] (dropAsterisks t)))

end MarkTex.Text
