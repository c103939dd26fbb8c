import Mathlib.Data.Set.List
import MarkTex.Proofs.Math.Segment
import MarkTex.Tex.Markup

/-!
# Reading escaped text back

Escaping loses nothing. An escaped text is cut from left to right into the ten escape sequences and
characters that mean nothing special, in just one way, and each piece stands for one character
(`unescape?`). With formulas kept as they are, a dollar that is not escaped starts a formula, and
the formula is told from its own characters as in the source (`readSegments?`).
-/

namespace MarkTex.Tex

/-! ## Escape sequences -/

/-- The characters that mean something to TeX. -/
def specials : List Char :=
  ['\\', '&', '%', '$', '#', '_', '{', '}', '~', '^']

/-- The ten escape sequences, in the order of the characters that they stand for. -/
def sequences : List Text :=
  ["\\textbackslash\x7b\x7d", "\\&", "\\%", "\\$", "\\#", "\\_", "\\\x7b", "\\\x7d",
    "\\textasciitilde\x7b\x7d", "\\textasciicircum\x7b\x7d"].map String.toList

/-- The escape sequences are those of the special signs. -/
theorem map_escapeChar_specials : specials.map escapeChar = sequences := by
  decide

/-- A character that means nothing special stands for itself. -/
theorem escapeChar_of_not_mem {c : Char} (h : c ∉ specials) : escapeChar c = [c] := by
  rw [escapeChar.eq_def]
  split <;> simp_all [specials]

/-- An escape sequence starts with a backslash. -/
theorem head_escapeChar {c : Char} (h : c ∈ specials) : ∃ r, escapeChar c = '\\' :: r := by
  simp only [specials, List.mem_cons, List.not_mem_nil, or_false] at h
  rcases h with rfl | rfl | rfl | rfl | rfl | rfl | rfl | rfl | rfl | rfl <;> exact ⟨_, rfl⟩

/-- No escape sequence is the beginning of another one. -/
theorem escapeChar_prefix_inj {c d : Char} (hc : c ∈ specials) (hd : d ∈ specials)
    (h : escapeChar c <+: escapeChar d) : c = d := by
  have hall : (specials.all fun c => specials.all fun d =>
      !(escapeChar c).isPrefixOf (escapeChar d) || c == d) = true := by
    decide
  have hcd := List.all_eq_true.1 (List.all_eq_true.1 hall c hc) d hd
  rw [List.isPrefixOf_iff_prefix.2 h] at hcd
  exact eq_of_beq hcd

/-! ## Reading one character -/

/-- The special character whose escape sequence the text starts with. -/
def startsWithSequence? (t : Text) : Option Char :=
  specials.find? fun c => (escapeChar c).isPrefixOf t

/-- The character that an escaped text starts with, and what follows it. A special character that is
not escaped cannot be read. -/
def readChar? (t : Text) : Option (Char × Text) :=
  match startsWithSequence? t, t with
  | some c, t => some (c, t.drop (escapeChar c).length)
  | none, c :: r => if c ∈ specials then none else some (c, r)
  | none, [] => none

/-- A sequence that a text starts with is that of its sign. -/
theorem startsWithSequence?_eq_some {t : Text} {c : Char} (h : startsWithSequence? t = some c) :
    c ∈ specials ∧ escapeChar c <+: t := by
  rw [startsWithSequence?] at h
  have hprefix := List.find?_some h
  exact ⟨List.mem_of_find?_eq_some h, List.isPrefixOf_iff_prefix.1 hprefix⟩

/-- At most one escape sequence stands at the start of a text. -/
theorem startsWithSequence?_append {c : Char} (h : c ∈ specials) (rest : Text) :
    startsWithSequence? (escapeChar c ++ rest) = some c := by
  have hc : escapeChar c <+: escapeChar c ++ rest := List.prefix_append _ _
  cases hfound : startsWithSequence? (escapeChar c ++ rest) with
  | none =>
    have hnone := List.find?_eq_none.1 hfound c h
    exact absurd (List.isPrefixOf_iff_prefix.2 hc) hnone
  | some d =>
    obtain ⟨hd, hprefix⟩ := startsWithSequence?_eq_some hfound
    -- one of the two sequences is a start of the other, so they are the same
    rcases List.prefix_or_prefix_of_prefix hprefix hc with hdc | hcd
    · rw [escapeChar_prefix_inj hd h hdc]
    · rw [escapeChar_prefix_inj h hd hcd]

/-- No sequence starts without a backslash. -/
theorem startsWithSequence?_cons {c : Char} (h : c ≠ '\\') (rest : Text) :
    startsWithSequence? (c :: rest) = none := by
  rw [startsWithSequence?, List.find?_eq_none]
  intro d hd
  obtain ⟨r, hr⟩ := head_escapeChar hd
  simp [hr, Ne.symm h]

/-- An escaped character is read as what it was, in front of any text. -/
theorem readChar?_append (c : Char) (rest : Text) :
    readChar? (escapeChar c ++ rest) = some (c, rest) := by
  by_cases h : c ∈ specials
  · simp only [readChar?, startsWithSequence?_append h, List.drop_left]
  · have hc : c ≠ '\\' := by
      rintro rfl
      exact h (by decide)
    rw [escapeChar_of_not_mem h, List.singleton_append]
    simp only [readChar?, startsWithSequence?_cons hc, if_neg h]

/-- Reading a character takes at least one. -/
theorem readChar?_length {t r : Text} {c : Char} (h : readChar? t = some (c, r)) :
    r.length < t.length := by
  unfold readChar? at h
  split at h
  · rename_i d hfound
    obtain ⟨rfl, rfl⟩ := by simpa using h
    -- the sequence that was read is not empty
    obtain ⟨hd, hprefix⟩ := startsWithSequence?_eq_some hfound
    obtain ⟨q, hq⟩ := head_escapeChar hd
    have hle := hprefix.length_le
    rw [hq, List.length_cons] at hle ⊢
    rw [List.length_drop]
    omega
  · split at h
    · simp at h
    · obtain ⟨-, rfl⟩ := by simpa using h
      simp
  · simp at h

/-! ## Plain text -/

/-- The text that an escaped text stands for, if it stands for one. -/
def unescape? (t : Text) : Option Text :=
  if t = [] then some []
  else
    match _h : readChar? t with
    | some (c, r) => (unescape? r).map (c :: ·)
    | none => none
termination_by t.length
decreasing_by exact readChar?_length ‹_›

/-- Unescaping goes on behind the character that was read. -/
theorem unescape?_of_readChar? {t r : Text} {c : Char} (h : readChar? t = some (c, r)) :
    unescape? t = (unescape? r).map (c :: ·) := by
  have hne : t ≠ [] := by
    rintro rfl
    simpa using readChar?_length h
  rw [unescape?, if_neg hne]
  split
  · rename_i heq
    rw [h] at heq
    obtain ⟨rfl, rfl⟩ := by simpa using heq
    rfl
  · rename_i heq
    rw [h] at heq
    simp at heq

/-- Escaping can be undone. -/
theorem unescape?_escape (t : Text) : unescape? (escape t) = some t := by
  induction t with
  | nil =>
    rw [escape, List.flatMap_nil, unescape?]
    rfl
  | cons c t ih =>
    rw [escape, List.flatMap_cons, unescape?_of_readChar? (readChar?_append c _), ← escape, ih]
    rfl

/-- No two texts are escaped alike. -/
theorem escape_injective : Function.Injective escape := by
  intro t u h
  have hread := unescape?_escape t
  rw [h, unescape?_escape] at hread
  exact (Option.some.inj hread).symm

/-! ## Pieces of an escaped text -/

/-- Whether `piece` is an escape sequence, or a character that means nothing special. -/
def IsPiece (piece : Text) : Prop :=
  piece ∈ sequences ∨ ∃ c, c ∉ specials ∧ piece = [c]

/-- An escaped character is a piece. -/
theorem isPiece_escapeChar (c : Char) : IsPiece (escapeChar c) := by
  by_cases h : c ∈ specials
  · refine .inl ?_
    rw [← map_escapeChar_specials]
    exact List.mem_map_of_mem h
  · exact .inr ⟨c, h, escapeChar_of_not_mem h⟩

/-- Every piece stands for a character. -/
theorem exists_of_isPiece {piece : Text} (h : IsPiece piece) : ∃ c, escapeChar c = piece := by
  rcases h with h | ⟨c, hc, rfl⟩
  · rw [← map_escapeChar_specials] at h
    obtain ⟨c, -, hc⟩ := List.mem_map.1 h
    exact ⟨c, hc⟩
  · exact ⟨c, escapeChar_of_not_mem hc⟩

/-- An escaped text is cut into pieces in just one way. -/
theorem existsUnique_pieces (t : Text) :
    ∃! pieces : List Text, pieces.flatten = escape t ∧ ∀ piece ∈ pieces, IsPiece piece := by
  refine ⟨t.map escapeChar, ⟨List.flatMap_def.symm, ?_⟩, ?_⟩
  · intro piece hpiece
    obtain ⟨c, -, rfl⟩ := List.mem_map.1 hpiece
    exact isPiece_escapeChar c
  · rintro pieces ⟨hflatten, hpieces⟩
    have hmem : ∀ piece ∈ pieces, piece ∈ Set.range escapeChar := fun piece hpiece =>
      exists_of_isPiece (hpieces piece hpiece)
    -- other pieces are the pieces of an escaped text too, which is `t` since escaping is injective
    obtain ⟨u, rfl⟩ : pieces ∈ Set.range (List.map escapeChar) := by
      rw [Set.range_list_map]
      exact hmem
    rw [← List.flatMap_def] at hflatten
    rw [escape_injective hflatten]

/-! ## Text with formulas -/

/-- The segments that an escaped text with formulas stands for, if it stands for any: a dollar that
is not escaped starts a formula. -/
def readSegments? (t : Text) : Option (List Segment) :=
  if t = [] then some []
  else
    match _hm : Text.math? t with
    | some (span, after) => (readSegments? after).map (.math span :: ·)
    | none =>
      match _hc : readChar? t with
      | some (c, r) => (readSegments? r).map (Text.plainBefore c)
      | none => none
termination_by t.length
decreasing_by
  · exact Text.math?_length ‹_›
  · exact readChar?_length ‹_›

/-- Where a formula starts, it is read first. -/
theorem readSegments?_of_math? {t span after : Text} (h : Text.math? t = some (span, after)) :
    readSegments? t = (readSegments? after).map (.math span :: ·) := by
  have hne : t ≠ [] := by
    rintro rfl
    simpa using Text.math?_length h
  rw [readSegments?, if_neg hne]
  split
  · rename_i heq
    rw [h] at heq
    obtain ⟨rfl, rfl⟩ := by simpa using heq
    rfl
  · rename_i heq
    rw [h] at heq
    simp at heq

/-- Elsewhere a character is read, and joins the plain text behind it. -/
theorem readSegments?_of_readChar? {t r : Text} {c : Char} (hm : Text.math? t = none)
    (h : readChar? t = some (c, r)) :
    readSegments? t = (readSegments? r).map (Text.plainBefore c) := by
  have hne : t ≠ [] := by
    rintro rfl
    simpa using readChar?_length h
  rw [readSegments?, if_neg hne]
  split
  · rename_i heq
    rw [hm] at heq
    simp at heq
  · split
    · rename_i heq
      rw [h] at heq
      obtain ⟨rfl, rfl⟩ := by simpa using heq
      rfl
    · rename_i heq
      rw [h] at heq
      simp at heq

/-- No formula starts where a character was escaped. -/
theorem math?_escapeChar_append (c : Char) (rest : Text) :
    Text.math? (escapeChar c ++ rest) = none := by
  by_cases h : c ∈ specials
  · obtain ⟨r, hr⟩ := head_escapeChar h
    rw [hr, List.cons_append, Option.eq_none_iff_forall_ne_some]
    intro found hfound
    exact absurd (Text.head_of_math? hfound) (by decide)
  · rw [escapeChar_of_not_mem h, List.singleton_append, Option.eq_none_iff_forall_ne_some]
    intro found hfound
    rw [Text.head_of_math? hfound] at h
    exact h (by decide)

/-- A plain character in front of segments is escaped in front of them. -/
theorem flatMap_escapeSegment_plainBefore (c : Char) (segments : List Segment) :
    (Text.plainBefore c segments).flatMap escapeSegment =
      escapeChar c ++ segments.flatMap escapeSegment := by
  fun_cases Text.plainBefore c segments with
  | case1 t rest =>
    simp only [List.flatMap_cons, escapeSegment, escape, List.append_assoc]
  | case2 =>
    simp only [List.flatMap_cons, escapeSegment, escape, List.flatMap_nil, List.append_nil]

/-- Escaping with formulas kept as they are can be undone, and tells which stretches are
formulas. -/
theorem readSegments?_escapeAroundMath (t : Text) :
    readSegments? (escapeAroundMath t) = some (Text.segments t) := by
  rw [escapeAroundMath]
  fun_induction Text.segments t with
  | case1 t span after h ih =>
    rw [List.flatMap_cons, escapeSegment, readSegments?_of_math? (Text.math?_append h _), ih]
    rfl
  | case2 =>
    rw [List.flatMap_nil, readSegments?]
    rfl
  | case3 c r h ih =>
    rw [flatMap_escapeSegment_plainBefore,
      readSegments?_of_readChar? (math?_escapeChar_append c _) (readChar?_append c _), ih]
    rfl

/-- **Escaping loses nothing.** An escaped text is read back as what it was, and there is just one
way to cut it into escape sequences and characters that mean nothing special. With formulas kept as
they are, the segments of the text are read back. So no two texts are escaped as the same one. -/
theorem escape_readable :
    (∀ t, unescape? (escape t) = some t ∧
      ∃! pieces : List Text, pieces.flatten = escape t ∧ ∀ piece ∈ pieces, IsPiece piece) ∧
    (∀ t, readSegments? (escapeAroundMath t) = some (Text.segments t) ∧
      (Text.segments t).flatMap Segment.text = t) ∧
    Function.Injective escape ∧ Function.Injective escapeAroundMath := by
  refine ⟨fun t => ⟨unescape?_escape t, existsUnique_pieces t⟩,
    fun t => ⟨readSegments?_escapeAroundMath t, Text.flatMap_text_segments t⟩,
    escape_injective, ?_⟩
  intro t u h
  have hread := readSegments?_escapeAroundMath t
  rw [h, readSegments?_escapeAroundMath, Option.some.injEq] at hread
  rw [← Text.flatMap_text_segments t, ← hread, Text.flatMap_text_segments]

end MarkTex.Tex
