import MarkTex.Proofs.Tex.Nesting

/-!
# Addresses in arguments

An address is guarded in an argument if the address, with its backslashes and braces
percent-encoded, can be read off the argument, the argument ends at the brace behind it, and no
comment starts in it (`Guarded`). Escaping an address does this, and nothing else does
(`guarded_iff`).

## Shape of the proof

First backslashes and braces are encoded, then the signs are escaped, also those that the encoding
brings in (`escapeAddress_eq`). An argument is read as a text without backslashes and braces exactly
if it is that text with its signs escaped (`readArgument?_eq_some_iff`); such an argument can be
skipped when its end is looked for or its comments are left out.
-/

namespace MarkTex.Tex

open Text (replaceChar)

/-! ## Encoding and escaping -/

/-- An address without backslashes and braces: they are percent-encoded. -/
def percentEncode (address : Text) : Text :=
  replaceChar '}' "%7D".toList (replaceChar '{' "%7B".toList
    (replaceChar '\\' "%5C".toList address))

/-- A text with its percent and number signs escaped. -/
def escapeSigns (t : Text) : Text :=
  replaceChar '#' ['\\', '#'] (replaceChar '%' ['\\', '%'] t)

theorem percentEncode_cons (c : Char) (address : Text) :
    percentEncode (c :: address) = percentEncode [c] ++ percentEncode address := by
  simp [percentEncode, replaceChar]

theorem escapeSigns_append (s t : Text) :
    escapeSigns (s ++ t) = escapeSigns s ++ escapeSigns t := by
  simp [escapeSigns, replaceChar]

/-- Any character but a backslash or a brace is encoded as itself. -/
theorem percentEncode_singleton {c : Char} (h : c ∉ ['\\', '{', '}']) :
    percentEncode [c] = [c] := by
  simp only [List.mem_cons, List.not_mem_nil, or_false, not_or] at h
  simp [percentEncode, replaceChar, h]

/-- A percent or number sign gets a backslash. -/
theorem escapeSigns_sign {c : Char} (h : c = '%' ∨ c = '#') (t : Text) :
    escapeSigns (c :: t) = '\\' :: c :: escapeSigns t := by
  rcases h with rfl | rfl <;> rfl

/-- Any character but a percent sign or a hash is left as it is. -/
theorem escapeSigns_plain {c : Char} (h : ¬ (c = '%' ∨ c = '#')) (t : Text) :
    escapeSigns (c :: t) = c :: escapeSigns t := by
  rw [not_or] at h
  simp [escapeSigns, replaceChar, h]

/-- An encoded address holds no backslash and no brace. -/
theorem isPlain_of_mem_percentEncode {address : Text} :
    ∀ c ∈ percentEncode address, isPlain c = true := by
  induction address with
  | nil => exact fun _ hc => absurd hc List.not_mem_nil
  | cons d address ih =>
    rw [percentEncode_cons, List.forall_mem_append]
    refine ⟨?_, ih⟩
    by_cases h : d ∈ ['\\', '{', '}']
    · rw [← List.all_eq_true]
      simp only [List.mem_cons, List.not_mem_nil, or_false] at h
      rcases h with rfl | rfl | rfl <;> rfl
    · rw [percentEncode_singleton h, List.forall_mem_singleton, isPlain_iff]
      simpa using h

/-- Escaping an address encodes it first, and escapes the signs of the encoding too. -/
theorem escapeAddress_eq (address : Text) :
    escapeAddress address = escapeSigns (percentEncode address) := by
  have hchar : ∀ c, addressChar c = escapeSigns (percentEncode [c]) := by
    intro c
    -- a character that is changed is one of five, and any other is left by both steps
    by_cases h : c ∈ ['\\', '{', '}', '%', '#']
    · simp only [List.mem_cons, List.not_mem_nil, or_false] at h
      rcases h with rfl | rfl | rfl | rfl | rfl <;> rfl
    · rw [addressChar_of_not_mem h]
      simp only [List.mem_cons, List.not_mem_nil, or_false, not_or] at h
      rw [percentEncode_singleton (by simp [h]), escapeSigns_plain (by simp [h])]
      rfl
  induction address with
  | nil => rfl
  | cons c address ih =>
    have hcons : escapeAddress (c :: address) = addressChar c ++ escapeAddress address := rfl
    rw [hcons, hchar, ih, percentEncode_cons c address, escapeSigns_append]

/-- An escaped address is no shorter than the address. -/
theorem length_le_escapeAddress (address : Text) :
    address.length ≤ (escapeAddress address).length := by
  induction address with
  | nil => exact Nat.le_refl 0
  | cons c address ih =>
    have hcons : escapeAddress (c :: address) = addressChar c ++ escapeAddress address := rfl
    have hpos : 1 ≤ (addressChar c).length := by
      rw [addressChar.eq_def]
      split <;> exact Nat.succ_pos _
    rw [hcons, List.length_append, List.length_cons]
    omega

/-- Only an address without any of the five signs is left as it is. -/
theorem escapeAddress_eq_self_iff {address : Text} :
    escapeAddress address = address ↔ ∀ c ∈ address, c ∉ ['\\', '{', '}', '%', '#'] := by
  induction address with
  | nil => exact ⟨fun _ _ hc => absurd hc List.not_mem_nil, fun _ => rfl⟩
  | cons c address ih =>
    have hcons : escapeAddress (c :: address) = addressChar c ++ escapeAddress address := rfl
    rw [List.forall_mem_cons, ← ih, hcons]
    by_cases h : c ∈ ['\\', '{', '}', '%', '#']
    · -- an escaped sign makes the address longer
      have hsign : 2 ≤ (addressChar c).length := by
        simp only [List.mem_cons, List.not_mem_nil, or_false] at h
        rcases h with rfl | rfl | rfl | rfl | rfl <;> decide
      have hrest := length_le_escapeAddress address
      constructor
      · intro heq
        have hlength := congrArg List.length heq
        rw [List.length_append, List.length_cons] at hlength
        omega
      · rintro ⟨hnone, -⟩
        exact absurd h hnone
    · rw [addressChar_of_not_mem h, List.singleton_append, List.cons_inj_right]
      exact ⟨fun heq => ⟨h, heq⟩, And.right⟩

/-! ## Reading an argument -/

/-- The text that an argument stands for: a backslash makes the percent or number sign behind it a
character like others. None if one of these signs has no backslash, if a backslash stands in front
of anything else, or if there are braces. -/
def readArgument? : Text → Option Text
  | [] => some []
  | ['\\'] => none
  | '\\' :: c :: r => if c = '%' ∨ c = '#' then (readArgument? r).map (c :: ·) else none
  | c :: r => if c ∈ ['{', '}', '%', '#'] then none else (readArgument? r).map (c :: ·)

/-- What is left of a text without its comments: a percent sign that no backslash takes hides the
rest of its line. `hidden` tells whether the text starts inside of a comment. -/
def visible : Bool → Text → Text
  | _, [] => []
  | true, '\n' :: r => '\n' :: visible false r
  | true, _ :: r => visible true r
  | false, '\\' :: c :: r => '\\' :: c :: visible false r
  | false, '%' :: r => visible true r
  | false, c :: r => c :: visible false r

/-- A plain character is visible. -/
theorem visible_plain {c : Char} (hbackslash : c ≠ '\\') (hpercent : c ≠ '%') (r : Text) :
    visible false (c :: r) = c :: visible false r := by
  rw [visible.eq_def]
  split <;> simp_all

/-- An address is guarded in an argument: it is what the argument stands for, up to
percent-encoding, the argument ends at the brace behind it, and it hides nothing. -/
structure Guarded (address argument : Text) : Prop where
  read : readArgument? argument = some (percentEncode address)
  ends : ∀ behind, argument? 0 (argument ++ '}' :: behind) = some argument
  shown : ∀ behind, visible false (argument ++ behind) = argument ++ visible false behind

/-- A plain character is read as itself. -/
theorem readArgument?_plain {c : Char} (hplain : isPlain c = true) (hsign : ¬ (c = '%' ∨ c = '#'))
    (r : Text) : readArgument? (c :: r) = (readArgument? r).map (c :: ·) := by
  rw [isPlain_iff] at hplain
  rw [readArgument?.eq_def]
  split <;> simp_all

/-- What an argument stands for is the text whose signs are escaped in it. -/
theorem readArgument?_eq_some_iff {argument t : Text} :
    readArgument? argument = some t ↔ argument = escapeSigns t ∧ ∀ c ∈ t, isPlain c = true := by
  constructor
  · intro h
    fun_induction readArgument? argument generalizing t with
    | case1 =>
      obtain rfl := Option.some.inj h
      exact ⟨rfl, fun _ hc => absurd hc List.not_mem_nil⟩
    | case2 | case4 | case5 => exact nomatch h
    | case3 c r hsign ih =>
      obtain ⟨u, hu, rfl⟩ := Option.map_eq_some_iff.1 h
      obtain ⟨rfl, hplain⟩ := ih hu
      rw [escapeSigns_sign hsign, List.forall_mem_cons]
      refine ⟨rfl, ?_, hplain⟩
      rcases hsign with rfl | rfl <;> decide
    | case6 c r hlast hescape hc ih =>
      -- a backslash reads only as part of an escaped sign
      have hbackslash : c ≠ '\\' := by
        rintro rfl
        cases r with
        | nil => exact hlast rfl rfl
        | cons d r => exact hescape d r rfl rfl
      obtain ⟨u, hu, rfl⟩ := Option.map_eq_some_iff.1 h
      obtain ⟨rfl, hplain⟩ := ih hu
      simp only [List.mem_cons, List.not_mem_nil, or_false, not_or] at hc
      rw [escapeSigns_plain (by simp [hc]), List.forall_mem_cons, isPlain_iff]
      exact ⟨rfl, ⟨hbackslash, hc.1, hc.2.1⟩, hplain⟩
  · rintro ⟨rfl, hplain⟩
    induction t with
    | nil => rfl
    | cons c t ih =>
      rw [List.forall_mem_cons] at hplain
      have hrest := ih hplain.2
      by_cases hsign : c = '%' ∨ c = '#'
      · rw [escapeSigns_sign hsign, readArgument?, if_pos hsign, hrest]
        rfl
      · rw [escapeSigns_plain hsign, readArgument?_plain hplain.1 hsign, hrest]
        rfl

/-! ## Escaped addresses are guarded -/

/-- An argument with its signs escaped ends at the brace behind it. -/
theorem argument?_escapeSigns {t : Text} (h : ∀ c ∈ t, isPlain c = true) (behind : Text) :
    argument? 0 (escapeSigns t ++ '}' :: behind) = some (escapeSigns t) := by
  induction t with
  | nil => rfl
  | cons c t ih =>
    rw [List.forall_mem_cons] at h
    by_cases hsign : c = '%' ∨ c = '#'
    · rw [escapeSigns_sign hsign, List.cons_append, List.cons_append, argument?, ih h.2]
      rfl
    · rw [escapeSigns_plain hsign, List.cons_append, argument?_plain h.1, ih h.2]
      rfl

/-- Nothing of an argument with its signs escaped is a comment. -/
theorem visible_escapeSigns {t : Text} (h : ∀ c ∈ t, isPlain c = true) (behind : Text) :
    visible false (escapeSigns t ++ behind) = escapeSigns t ++ visible false behind := by
  induction t with
  | nil => rfl
  | cons c t ih =>
    rw [List.forall_mem_cons, isPlain_iff] at h
    by_cases hsign : c = '%' ∨ c = '#'
    · rw [escapeSigns_sign hsign, List.cons_append, List.cons_append, visible, ih h.2]
      rfl
    · have hpercent : c ≠ '%' := fun heq => hsign (.inl heq)
      rw [escapeSigns_plain hsign, List.cons_append, visible_plain h.1.1 hpercent, ih h.2]
      rfl

/-- **An address is guarded in just one argument**, which is the escaped address. -/
theorem guarded_iff {address argument : Text} :
    Guarded address argument ↔ argument = escapeAddress address := by
  rw [escapeAddress_eq]
  constructor
  · intro h
    exact (readArgument?_eq_some_iff.1 h.read).1
  · rintro rfl
    have hplain : ∀ c ∈ percentEncode address, isPlain c = true := isPlain_of_mem_percentEncode
    exact ⟨readArgument?_eq_some_iff.2 ⟨rfl, hplain⟩, argument?_escapeSigns hplain,
      visible_escapeSigns hplain⟩

end MarkTex.Tex
