import MarkTex.Proofs.Tex.Nesting
import MarkTex.Proofs.Text.Lines
import MarkTex.Tex.Markup

/-!
# Neutral texts

A text is neutral if reading it in front of any other text leaves open what was open before. Escaped
text is neutral; so is what commands and environments make of neutral text, and what neutral texts
are put together to. White space at the end of a text may stand behind a backslash, so a text can be
stripped only if it is neutral wherever its last white space is cut off (`Trimmable`).
-/

namespace MarkTex.Tex

/-- Reading the text in front of any other text changes nothing. -/
def Neutral (s : Text) : Prop :=
  ∀ n t, scan n (s ++ t) = scan n t

/-- A neutral text is well nested. -/
theorem Neutral.wellNested {s : Text} (h : Neutral s) : WellNested s := by
  have hscan := h {} []
  rwa [List.append_nil] at hscan

/-! ## Putting neutral texts together -/

theorem neutral_nil : Neutral [] :=
  fun _ _ => rfl

/-- Neutral texts are neutral one after the other. -/
theorem Neutral.append {s t : Text} (hs : Neutral s) (ht : Neutral t) : Neutral (s ++ t) := by
  intro n u
  rw [List.append_assoc, hs, ht]

/-- The rest of a neutral text behind a neutral beginning is neutral. -/
theorem Neutral.of_append {s t : Text} (h : Neutral (s ++ t)) (hs : Neutral s) : Neutral t := by
  intro n u
  rw [← h n u, List.append_assoc, hs]

/-- What is put together from neutral texts is neutral. -/
theorem compositional_neutral : Text.Compositional Neutral :=
  ⟨neutral_nil, Neutral.append⟩

/-! ## Plain text -/

/-- A plain character is neutral. -/
theorem neutral_singleton {c : Char} (hc : isPlain c = true) : Neutral [c] :=
  fun n t => scan_plain hc n t

/-- A text of plain characters is neutral. -/
theorem neutral_of_plain {s : Text} (h : s.all isPlain = true) : Neutral s :=
  compositional_neutral.of_chars fun c hc => neutral_singleton (List.all_eq_true.1 h c hc)

/-- Characters of a class that has none of the three signs in it are plain. -/
theorem isPlain_of_class {p : Char → Bool} (hbackslash : p '\\' = false) (hopen : p '{' = false)
    (hclose : p '}' = false) {c : Char} (h : p c = true) : isPlain c = true := by
  refine isPlain_iff.2 ⟨?_, ?_, ?_⟩
  · rintro rfl
    exact absurd h (by simp [hbackslash])
  · rintro rfl
    exact absurd h (by simp [hopen])
  · rintro rfl
    exact absurd h (by simp [hclose])

/-- Characters that are not escaped are plain. -/
theorem isPlain_of_not_mem_specials {c : Char} (h : c ∉ specials) : isPlain c = true := by
  refine isPlain_iff.2 ⟨?_, ?_, ?_⟩ <;> rintro rfl <;> exact h (by decide)

/-! ## Commands and environments -/

/-- Neutral text in braces is neutral. -/
theorem neutral_braced {s : Text} (h : Neutral s) : Neutral (braced s) := by
  intro n t
  have hbraced : braced s ++ t = '{' :: (s ++ '}' :: t) := by
    simp [braced]
  rw [hbraced, scan_open, h, scan_close]

/-- What ends where a character stands first is told from the text in front of it. -/
theorem concat_prefix_inj {a b rest : Text} {c : Char} (ha : c ∉ a) (hb : c ∉ b)
    (h : a ++ [c] <+: b ++ c :: rest) : a = b := by
  obtain ⟨tail, htail⟩ := h
  have htake : ∀ {s : Text} (u : Text), c ∉ s → (s ++ c :: u).takeWhile (· ≠ c) = s := by
    intro s u hs
    have hne : ∀ d ∈ s, decide (d ≠ c) = true := by
      intro d hd
      refine decide_eq_true ?_
      rintro rfl
      exact hs hd
    rw [List.takeWhile_append_of_pos hne]
    simp
  have heq := congrArg (List.takeWhile (· ≠ c)) htail
  rwa [List.append_assoc, List.singleton_append, htake tail ha, htake rest hb] at heq

/-- Whether `name` names a command that neither opens nor closes an environment. -/
def IsCommandName (name : String) : Prop :=
  name.toList ≠ [] ∧ name.toList.all isPlain = true ∧ name ≠ "begin" ∧ name ≠ "end"

instance (name : String) : Decidable (IsCommandName name) :=
  inferInstanceAs (Decidable (_ ∧ _ ∧ _ ∧ _))

/-- A command without braces yet. -/
theorem scan_commandName {name : String} (h : IsCommandName name) (n : Nesting) (r : Text) :
    scan n ('\\' :: name.toList ++ '{' :: r) = scan n ('{' :: r) := by
  obtain ⟨hne, hplain, hbegin, hend⟩ := h
  have hbrace : '{' ∉ name.toList := fun hmem =>
    absurd (List.all_eq_true.1 hplain '{' hmem) (by decide)
  -- the brace ends the name, so a keyword at its start would be the whole name
  have hkeyword : ∀ other : String, '{' ∉ other.toList → name ≠ other →
      (other.toList ++ ['{']).isPrefixOf (name.toList ++ '{' :: r) = false := by
    intro other hother hname
    rw [← Bool.not_eq_true, List.isPrefixOf_iff_prefix]
    intro hprefix
    exact hname (String.toList_inj.1 (concat_prefix_inj hother hbrace hprefix).symm)
  have henter : enter n (name.toList ++ '{' :: r) = some n := by
    have h₁ : beginning.isPrefixOf (name.toList ++ '{' :: r) = false :=
      hkeyword "begin" (by decide) hbegin
    have h₂ : ending.isPrefixOf (name.toList ++ '{' :: r) = false :=
      hkeyword "end" (by decide) hend
    rw [enter, h₁, h₂]
    rfl
  cases hname : name.toList with
  | nil => exact absurd hname hne
  | cons c letters =>
    rw [hname] at henter hplain
    rw [List.cons_append, List.cons_append, scan_escape, ← List.cons_append, henter,
      Option.bind_some]
    rw [List.all_cons, Bool.and_eq_true] at hplain
    exact neutral_of_plain hplain.2 n _

/-- A command with a neutral argument is neutral. -/
theorem neutral_command {name : String} (hname : IsCommandName name) {arg : Text}
    (h : Neutral arg) : Neutral (command name arg) := by
  intro n t
  have hcommand : command name arg ++ t = '\\' :: name.toList ++ '{' :: (arg ++ '}' :: t) := by
    simp [command, braced]
  rw [hcommand, scan_commandName hname, scan_open, h, scan_close]

/-- A plain name in braces is read as the argument. -/
theorem argument?_of_plain {name : Text} (h : name.all isPlain = true) (t : Text) :
    argument? 0 (name ++ '}' :: t) = some name := by
  induction name with
  | nil => rfl
  | cons c name ih =>
    rw [List.all_cons, Bool.and_eq_true] at h
    rw [List.cons_append, argument?_plain h.1, ih h.2]
    rfl

/-- The line that opens an environment. -/
theorem scan_opening {name : String} (h : name.toList.all isPlain = true) (n : Nesting) (t : Text) :
    scan n (opening name ++ t) =
      scan { n with environments := name.toList :: n.environments } t := by
  have hopening : opening name ++ t =
      '\\' :: 'b' :: ("egin".toList ++ '{' :: (name.toList ++ '}' :: t)) := by
    simp [opening, command, braced]
  -- the keyword is read, and the name is the argument behind it
  have henter : enter n ('b' :: ("egin".toList ++ '{' :: (name.toList ++ '}' :: t))) =
      some { n with environments := name.toList :: n.environments } := by
    let tail := name.toList ++ '}' :: t
    have hbegin : beginning.isPrefixOf ('b' :: ("egin".toList ++ '{' :: tail)) = true := rfl
    have hdrop : ('b' :: ("egin".toList ++ '{' :: tail)).drop beginning.length = tail := rfl
    rw [enter, hbegin, hdrop, argument?_of_plain h]
    rfl
  have hegin : Neutral "egin".toList := neutral_of_plain (by decide)
  rw [hopening, scan_escape, henter, Option.bind_some, hegin, scan_open, neutral_of_plain h]
  exact scan_close _ t

/-- The line that closes an environment. -/
theorem scan_closing {name : String} (h : name.toList.all isPlain = true) (n : Nesting) (t : Text) :
    scan { n with environments := name.toList :: n.environments } (closing name ++ t) =
      scan n t := by
  have hclosing : closing name ++ t =
      '\\' :: 'e' :: ("nd".toList ++ '{' :: (name.toList ++ '}' :: t)) := by
    simp [closing, command, braced]
  -- the name is that of the innermost environment, so this is closed
  have henter : enter { n with environments := name.toList :: n.environments }
      ('e' :: ("nd".toList ++ '{' :: (name.toList ++ '}' :: t))) = some n := by
    let tail := name.toList ++ '}' :: t
    have hbegin : beginning.isPrefixOf ('e' :: ("nd".toList ++ '{' :: tail)) = false := rfl
    have hend : ending.isPrefixOf ('e' :: ("nd".toList ++ '{' :: tail)) = true := rfl
    have hdrop : ('e' :: ("nd".toList ++ '{' :: tail)).drop ending.length = tail := rfl
    rw [enter, hbegin, hend, hdrop, argument?_of_plain h]
    exact if_pos rfl
  have hnd : Neutral "nd".toList := neutral_of_plain (by decide)
  rw [hclosing, scan_escape, henter, Option.bind_some, hnd, scan_open, neutral_of_plain h]
  exact scan_close _ t

/-- What stands between the lines that open and close an environment may be read on its own. -/
theorem neutral_environment {name : String} (hname : name.toList.all isPlain = true) {body : Text}
    (h : Neutral body) : Neutral (opening name ++ body ++ closing name) := by
  intro n t
  rw [List.append_assoc, List.append_assoc, scan_opening hname, h, scan_closing hname]

/-! ## Escaped text -/

/-- An escaped character is neutral. -/
theorem neutral_escapeChar (c : Char) : Neutral (escapeChar c) := by
  by_cases h : c ∈ specials
  · have hcommand : ∀ name, IsCommandName name → Neutral (command name []) :=
      fun name hname => neutral_command hname neutral_nil
    simp only [specials, List.mem_cons, List.not_mem_nil, or_false] at h
    -- two of the escaped signs are commands with a name, besides the backslash; the others are two
    -- characters
    rcases h with rfl | rfl | rfl | rfl | rfl | rfl | rfl | rfl | rfl | rfl
    · exact hcommand "textbackslash" (by decide)
    · exact fun n t => rfl
    · exact fun n t => rfl
    · exact fun n t => rfl
    · exact fun n t => rfl
    · exact fun n t => rfl
    · exact fun n t => rfl
    · exact fun n t => rfl
    · exact hcommand "textasciitilde" (by decide)
    · exact hcommand "textasciicircum" (by decide)
  · rw [escapeChar_of_not_mem h]
    exact neutral_singleton (isPlain_of_not_mem_specials h)

/-- Escaped text is neutral. -/
theorem neutral_escape (t : Text) : Neutral (escape t) :=
  compositional_neutral.flatMap fun c _ => neutral_escapeChar c

/-- A character of an escaped address is neutral. -/
theorem neutral_addressChar (c : Char) : Neutral (addressChar c) := by
  by_cases h : c ∈ ['\\', '{', '}', '%', '#']
  · simp only [List.mem_cons, List.not_mem_nil, or_false] at h
    rcases h with rfl | rfl | rfl | rfl | rfl
    · exact fun n t => rfl
    · exact fun n t => rfl
    · exact fun n t => rfl
    · exact fun n t => rfl
    · exact fun n t => rfl
  · rw [addressChar_of_not_mem h]
    simp only [List.mem_cons, List.not_mem_nil, or_false, not_or] at h
    exact neutral_singleton (isPlain_iff.2 ⟨h.1, h.2.1, h.2.2.1⟩)

/-- An address cannot leave the argument that it stands in. -/
theorem neutral_escapeAddress (address : Text) : Neutral (escapeAddress address) :=
  compositional_neutral.flatMap fun c _ => neutral_addressChar c

/-! ## Text written out as it is -/

/-- A well-nested text is neutral if its last character cannot be part of a keyword. -/
theorem WellNested.neutral_concat {s : Text} {c : Char} (h : WellNested (s ++ [c]))
    (hc : ¬ IsKeyChar c) : Neutral (s ++ [c]) :=
  fun n t => h.scan_append (settled_concat hc s t) n

/-- Behind well-nested text, a character that is in no command is read as it is. -/
theorem WellNested.neutral_append {s : Text} {c : Char} (h : WellNested s) (hc : ¬ IsKeyChar c)
    (hplain : isPlain c = true) : Neutral (s ++ [c]) := by
  intro n t
  rw [List.append_assoc, List.singleton_append, h.scan_append (settled_cons hc s t),
    scan_plain hplain]

/-- Well-nested text may be an argument. -/
theorem WellNested.neutral_command {s : Text} (h : WellNested s) {name : String}
    (hname : IsCommandName name) : Neutral (command name s) := by
  intro n t
  have hcommand : command name s ++ t = '\\' :: name.toList ++ '{' :: (s ++ '}' :: t) := by
    simp [command, braced]
  rw [hcommand, scan_commandName hname, scan_open, h.scan_append (settled_cons (by decide) s t),
    scan_close]

/-! ## Stripping -/

/-- The text is neutral wherever white space at its end is cut off. -/
def Trimmable (s : Text) : Prop :=
  ∀ u blank, s = u ++ blank → (∀ c ∈ blank, Text.isBlank c = true) → Neutral u

/-- A text that may be stripped is neutral as it is. -/
theorem Trimmable.neutral {s : Text} (h : Trimmable s) : Neutral s :=
  h s [] (List.append_nil s).symm (by simp)

theorem trimmable_nil : Trimmable [] := by
  intro u blank h _
  rw [(List.append_eq_nil_iff.1 h.symm).1]
  exact neutral_nil

/-- Texts that may be stripped may be so together. -/
theorem Trimmable.append {s t : Text} (hs : Trimmable s) (ht : Trimmable t) :
    Trimmable (s ++ t) := by
  intro u blank h hblank
  -- the white space that is cut off starts in `t`, or takes all of `t` with it
  rcases List.append_eq_append_iff.1 h with ⟨v, rfl, rfl⟩ | ⟨v, rfl, rfl⟩
  · exact hs.neutral.append (ht v blank rfl hblank)
  · exact hs u v rfl fun c hc => hblank c (List.mem_append_left _ hc)

/-- What is put together from texts that may be stripped may be. -/
theorem compositional_trimmable : Text.Compositional Trimmable :=
  ⟨trimmable_nil, Trimmable.append⟩

/-- A neutral text that does not end in white space. -/
theorem Neutral.trimmable {s : Text} {c : Char} (h : Neutral (s ++ [c]))
    (hc : Text.isBlank c = false) : Trimmable (s ++ [c]) := by
  intro u blank heq hblank
  rcases List.eq_nil_or_concat blank with rfl | ⟨blank, d, rfl⟩
  · rw [List.append_nil] at heq
    rwa [← heq]
  · rw [List.concat_eq_append, ← List.append_assoc] at heq
    obtain ⟨-, hcd⟩ := List.append_inj' heq rfl
    obtain rfl : c = d := by simpa using hcd
    exact absurd (hblank c (by simp)) (by simp [hc])

/-- A plain character may be stripped. -/
theorem trimmable_singleton {c : Char} (hc : isPlain c = true) : Trimmable [c] := by
  intro u blank h _
  refine neutral_of_plain (List.all_eq_true.2 fun d hd => ?_)
  have hmem : d ∈ [c] := by
    rw [h]
    exact List.mem_append_left _ hd
  rw [List.mem_singleton.1 hmem]
  exact hc

/-- A command that is neutral may be stripped, for it ends with a brace. -/
theorem trimmable_command {name : String} {arg : Text} (h : Neutral (command name arg)) :
    Trimmable (command name arg) := by
  have hcommand : command name arg = ('\\' :: name.toList ++ '{' :: arg) ++ ['}'] := by
    simp [command, braced]
  rw [hcommand] at h ⊢
  exact h.trimmable (by decide)

/-- An escaped character may be stripped. -/
theorem trimmable_escapeChar (c : Char) : Trimmable (escapeChar c) := by
  by_cases h : c ∈ specials
  · obtain ⟨s, d, hs, hd⟩ : ∃ s d, escapeChar c = s ++ [d] ∧ Text.isBlank d = false := by
      simp only [specials, List.mem_cons, List.not_mem_nil, or_false] at h
      -- each of the sequences ends with a sign that is no blank
      rcases h with rfl | rfl | rfl | rfl | rfl | rfl | rfl | rfl | rfl | rfl
      · exact ⟨"\\textbackslash\x7b".toList, '}', rfl, rfl⟩
      · exact ⟨['\\'], '&', rfl, rfl⟩
      · exact ⟨['\\'], '%', rfl, rfl⟩
      · exact ⟨['\\'], '$', rfl, rfl⟩
      · exact ⟨['\\'], '#', rfl, rfl⟩
      · exact ⟨['\\'], '_', rfl, rfl⟩
      · exact ⟨['\\'], '{', rfl, rfl⟩
      · exact ⟨['\\'], '}', rfl, rfl⟩
      · exact ⟨"\\textasciitilde\x7b".toList, '}', rfl, rfl⟩
      · exact ⟨"\\textasciicircum\x7b".toList, '}', rfl, rfl⟩
    have hneutral := neutral_escapeChar c
    rw [hs] at hneutral ⊢
    exact hneutral.trimmable hd
  · rw [escapeChar_of_not_mem h]
    exact trimmable_singleton (isPlain_of_not_mem_specials h)

/-- The text without the white space at its ends. -/
theorem Trimmable.neutral_strip {s : Text} (h : Trimmable s) : Neutral (Text.strip s) := by
  obtain ⟨front, back, hs, hfront, hback⟩ := Text.exists_strip s
  have hcore : Neutral (front ++ Text.strip s) := h _ back hs hback
  -- white space in front is neutral by itself, so what is left behind it is neutral too
  refine hcore.of_append (neutral_of_plain (List.all_eq_true.2 fun c hc => ?_))
  exact isPlain_of_class (by decide) (by decide) (by decide) (hfront c hc)

end MarkTex.Tex
