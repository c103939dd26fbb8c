import MarkTex.Proofs.Body.Nesting

/-!
# Listings

Code is emitted as it was written, between a line that opens a listing and a command that closes it.
The line that opens it holds no more of the fence than a language of a harmless form
(`language_word`). Nothing is done about code that holds the closing command itself, so the listing
ends where it should exactly if the code does not (`firstAt_closing_iff`).

## Shape of the proof

What opens and closes lines of code is a line feed, and the closing command holds none. So it cannot
start in the code and end behind it (`firstAt_append_iff`).
-/

namespace MarkTex.Body

open Markdown (Token)

/-! ## First occurrences -/

/-- Whether the first occurrence of `s` in a text is at the position `n`. -/
def FirstAt (s t : Text) (n : Nat) : Prop :=
  s <+: t.drop n ∧ ∀ m, m < n → ¬ s <+: t.drop m

section

variable {s : Text} (hne : s ≠ []) (hbreak : '\n' ∉ s)

include hne hbreak

/-- What holds no line feed occurs first behind lines exactly if it does not occur in them. -/
theorem firstAt_append_iff (lines behind : Text) :
    FirstAt s (lines ++ ['\n'] ++ s ++ behind) (lines ++ ['\n']).length ↔
      ¬ s <:+: lines ++ ['\n'] := by
  constructor
  · rintro ⟨-, hfirst⟩ ⟨front, back, hlines⟩
    have hshort : front.length < (lines ++ ['\n']).length := by
      have hpos : 0 < s.length := List.length_pos_iff.2 hne
      rw [← hlines, List.length_append, List.length_append]
      omega
    refine hfirst front.length hshort ⟨back ++ s ++ behind, ?_⟩
    rw [← hlines]
    simp
  · intro hnone
    refine ⟨⟨behind, ?_⟩, fun m hm hstart => ?_⟩
    · rw [List.append_assoc, List.drop_left]
    rw [List.append_assoc, List.drop_append_of_le_length hm.le] at hstart
    rcases List.prefix_or_prefix_of_prefix hstart (List.prefix_append _ _) with hinside | hacross
    · exact hnone (hinside.isInfix.trans (List.drop_suffix m _).isInfix)
    · -- an occurrence that starts in the lines and ends behind them holds their last line feed
      refine hbreak (hacross.subset ?_)
      have hlines : m ≤ lines.length := by
        rw [List.length_append] at hm
        exact Nat.le_of_lt_succ hm
      rw [List.drop_append_of_le_length hlines]
      exact List.mem_append_right _ (List.mem_singleton_self _)

/-- A line feed in front of a text makes no room for what holds none. -/
theorem infix_cons_iff (t : Text) : s <:+: '\n' :: t ↔ s <:+: t := by
  rw [List.infix_cons_iff, or_iff_right]
  rw [List.prefix_cons_iff]
  rintro (hnil | ⟨r, rfl, -⟩)
  · exact hne hnil
  · exact hbreak List.mem_cons_self

/-- A line feed behind a text makes no room for what holds none. -/
theorem infix_concat_iff (t : Text) : s <:+: t ++ ['\n'] ↔ s <:+: t := by
  rw [List.infix_concat_iff, or_iff_right]
  rw [List.suffix_concat_iff]
  rintro (hnil | ⟨r, rfl, -⟩)
  · exact hne hnil
  · exact hbreak List.mem_concat_self

end

/-! ## The line that opens a listing -/

/-- Whether a word is harmless as the language of a listing. -/
def IsLanguage (word : Text) : Prop :=
  1 ≤ word.length ∧ word.length ≤ 50 ∧ ∀ c ∈ word, Tex.isLanguageChar c = true

instance (word : Text) : Decidable (IsLanguage word) :=
  inferInstanceAs (Decidable (_ ∧ _))

/-- The option of a listing that names its language. -/
def languageOption (name? : Option Text) : Text :=
  name?.elim [] fun name => "[language=".toList ++ name ++ [']']

/-- The line that opens a listing: its first word is the language if it is a harmless one. -/
def listingHeader (info : Text) : Text :=
  Tex.opening "lstlisting" ++ languageOption ((Text.words info).head?.filter IsLanguage)

/-- What gets through is a harmless name with white space around it. -/
theorem isLanguage_of_checkLanguage {t name : Text} (h : Tex.checkLanguage t = .ok name) :
    name = Text.strip t ∧ IsLanguage name := by
  have hchars := isLanguageChar_of_checkLanguage h
  rw [Tex.checkLanguage] at h
  split at h
  · cases h
  rename_i hlength
  split at h
  · cases h
  rename_i hvalid
  obtain rfl := Except.ok.inj h
  rw [Bool.or_eq_true, not_or, List.isEmpty_iff] at hvalid
  exact ⟨rfl, List.length_pos_iff.2 hvalid.1, Nat.le_of_not_lt hlength, hchars⟩

/-- A name of a harmless form passes the check of languages, without the blanks around it. -/
theorem checkLanguage_of_isLanguage {t : Text} (h : IsLanguage (Text.strip t)) :
    Tex.checkLanguage t = .ok (Text.strip t) := by
  obtain ⟨hpos, hlength, hchars⟩ := h
  have hshort : ¬ (Text.strip t).length > Tex.longestLanguage := Nat.not_lt.2 hlength
  have hne : Text.strip t ≠ [] := List.length_pos_iff.1 hpos
  have hall : (Text.strip t).all Tex.isLanguageChar = true := List.all_eq_true.2 hchars
  rw [Tex.checkLanguage, if_neg hshort, hall]
  simp [hne]

/-- A word names the language that it is, if it is a harmless one, and none otherwise. -/
theorem language_word {word : Text} (h : Text.IsWord word) :
    (Tex.language word).1 = if IsLanguage word then word else [] := by
  have hempty : ¬ word.isEmpty = true := by
    rw [List.isEmpty_iff]
    exact h.1
  have hstrip : Text.strip word = word := Text.strip_eq_self h.2
  rw [Tex.language, if_neg hempty]
  by_cases hlanguage : IsLanguage word
  · have hcheck : Tex.checkLanguage word = .ok word := by
      have hok := checkLanguage_of_isLanguage (hstrip.symm ▸ hlanguage)
      rwa [hstrip] at hok
    rw [hcheck, if_pos hlanguage]
  · rw [if_neg hlanguage]
    -- a word that is no language name is refused, so nothing of it is kept
    cases hcheck : Tex.checkLanguage word with
    | error fault => rfl
    | ok name =>
      obtain ⟨rfl, hname⟩ := isLanguage_of_checkLanguage hcheck
      rw [hstrip] at hname
      exact absurd hname hlanguage

/-- A listing is opened by its header, whatever its fence holds. -/
theorem text_renderListing (t : Token) :
    (renderListing t).text =
      listingHeader t.info ++ '\n' :: listingBody t.content ++ Tex.closing "lstlisting" := by
  have hlanguage : (listingLanguage t.info).1 =
      (((Text.words t.info).head?.filter IsLanguage).getD []) := by
    rw [listingLanguage]
    cases hwords : Text.words t.info with
    | nil => rfl
    | cons word words =>
      have hword : word ∈ Text.words t.info := hwords ▸ List.mem_cons_self
      -- only the first word behind the fence is taken as a language
      show (Tex.language word).1 = _
      rw [language_word (Text.isWord_of_mem_words word hword), List.head?_cons, Option.filter_some]
      by_cases h : IsLanguage word
      · simp [h]
      · simp [h]
  rw [renderListing, listingHeader]
  simp only [hlanguage]
  cases hname : (Text.words t.info).head?.filter IsLanguage with
  | none =>
    have hempty : List.isEmpty ((none : Option Text).getD []) = true := rfl
    rw [if_pos hempty, languageOption, Option.elim_none, List.append_nil]
  | some name =>
    have hvalid : IsLanguage name := of_decide_eq_true (Option.filter_eq_some_iff.1 hname).2
    -- a name that is kept is not empty, so its option is set
    have hne : ¬ List.isEmpty ((some name).getD []) = true := by
      rw [Option.getD_some, List.isEmpty_iff]
      exact List.length_pos_iff.1 hvalid.1
    rw [if_neg hne, languageOption, Option.getD_some, Option.elim_some]
    simp only [List.append_assoc]

/-! ## The code of a listing -/

/-- Whether a text is code as it was written, ended by a line feed if there is any. -/
structure IsCode (content code : Text) : Prop where
  empty : content = [] → code = []
  ended : content ≠ [] → ['\n'] <:+ code
  verbatim : code = content ∨ code = content ++ ['\n'] ∧ ¬ ['\n'] <:+ content

/-- The body of a listing is the code, with a line end where it had none. -/
theorem isCode_listingBody (content : Text) : IsCode content (listingBody content) := by
  rw [listingBody]
  split
  · rename_i hended
    rw [Bool.or_eq_true, List.isEmpty_iff, Text.endsWith, List.isSuffixOf_iff_suffix] at hended
    exact ⟨id, fun hne => hended.resolve_left hne, .inl rfl⟩
  · rename_i hopen
    rw [Bool.or_eq_true, List.isEmpty_iff, Text.endsWith, List.isSuffixOf_iff_suffix, not_or]
      at hopen
    exact ⟨fun hnil => absurd hnil hopen.1, fun _ => List.suffix_append _ _, .inr ⟨rfl, hopen.2⟩⟩

/-- The lines of a listing, from the line feed behind its header to the one in front of the closing
command. -/
theorem exists_lines {content code : Text} (h : IsCode content code) :
    ∃ lines, '\n' :: code = lines ++ ['\n'] := by
  by_cases hne : content = []
  · exact ⟨[], by rw [h.empty hne]; rfl⟩
  · obtain ⟨lines, hlines⟩ := h.ended hne
    exact ⟨'\n' :: lines, by rw [← hlines]; rfl⟩

/-- **A listing ends where it should exactly if its code does not hold the closing command.** It is
a header, which opens it and names a harmless language or none, the code as it was written, and the
closing command. Whatever stands behind it, the first closing command behind the header is this one
exactly if none stands in the code. -/
theorem firstAt_closing_iff (t : Token) :
    ∃ code, IsCode t.content code ∧
      (renderListing t).text =
        listingHeader t.info ++ '\n' :: code ++ Tex.closing "lstlisting" ∧
      ∀ behind,
        FirstAt (Tex.closing "lstlisting") ('\n' :: code ++ Tex.closing "lstlisting" ++ behind)
            ('\n' :: code).length ↔
          ¬ Tex.closing "lstlisting" <:+: t.content := by
  have hne : Tex.closing "lstlisting" ≠ [] := by decide
  have hbreak : '\n' ∉ Tex.closing "lstlisting" := by decide
  have hcode := isCode_listingBody t.content
  refine ⟨listingBody t.content, hcode, text_renderListing t, fun behind => ?_⟩
  obtain ⟨lines, hlines⟩ := exists_lines hcode
  -- the line ends at both sides of the code can be no part of the closing command
  have hinside : Tex.closing "lstlisting" <:+: '\n' :: listingBody t.content ↔
      Tex.closing "lstlisting" <:+: t.content := by
    rw [infix_cons_iff hne hbreak]
    rcases hcode.verbatim with hsame | ⟨hended, -⟩
    · rw [hsame]
    · rw [hended, infix_concat_iff hne hbreak]
  rw [← hinside, hlines]
  exact firstAt_append_iff hne hbreak lines behind

/-- Code that holds the command that should close it. -/
def innerClosing : Token :=
  { kind := "fence", content := "\\end\x7blstlisting\x7d\n".toList }

/-- The closing command in the code comes first. -/
theorem not_firstAt_innerClosing :
    ¬ ∀ t : Token, ∃ code, IsCode t.content code ∧
      (renderListing t).text =
        listingHeader t.info ++ '\n' :: code ++ Tex.closing "lstlisting" ∧
      FirstAt (Tex.closing "lstlisting") ('\n' :: code ++ Tex.closing "lstlisting")
        ('\n' :: code).length := by
  intro h
  obtain ⟨code, hcode, -, -, hfirst⟩ := h innerClosing
  have hsame : code = innerClosing.content := by
    -- the code ends with a line end, so none is added to it
    refine hcode.verbatim.resolve_right ?_
    rintro ⟨-, hopen⟩
    exact hopen (by decide)
  subst hsame
  exact hfirst 1 (by decide) (by decide)

end MarkTex.Body
