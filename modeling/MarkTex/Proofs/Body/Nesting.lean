import MarkTex.Proofs.Body.Block
import MarkTex.Proofs.Body.Running
import MarkTex.Proofs.Table.Nesting

/-!
# Nesting in a body

A body is well nested if what stands in it as it was written is: its formulas, the code of its
listings and the sources of its images. Everything else that is emitted is neutral, whatever the
tokens are.

## Shape of the proof

By recursion on the outline. Running text is trimmable, since it may be a cell of a table
(`trimmable_renderInlines`); each kind of block puts neutral texts into commands, environments and
lines.
-/

namespace MarkTex.Body

open Markdown (Token)
open Tex (Neutral Trimmable WellNested isPlain)

/-- Whatever the constructs hold as it was written is well nested. -/
def Sound (constructs : List Construct) : Prop :=
  ∀ construct ∈ constructs, ∀ t ∈ construct.verbatim?, WellNested t

theorem sound_append {constructs others : List Construct} :
    Sound (constructs ++ others) ↔ Sound constructs ∧ Sound others :=
  List.forall_mem_append

/-! ## Running text -/

/-- A marked phrase is trimmable if what it encloses is. -/
theorem trimmable_decorate (opener : Token) {inner : Fragment} (h : Trimmable inner.text) :
    Trimmable (decorate opener inner).text := by
  have hcommand : ∀ name, Tex.IsCommandName name → Trimmable (Tex.command name inner.text) :=
    fun name hname => Tex.trimmable_command (Tex.neutral_command hname h.neutral)
  rw [decorate]
  split
  · exact hcommand "textbf" (by decide)
  split
  · exact hcommand "textit" (by decide)
  split
  · exact (hcommand "sout" (by decide)).append Tex.trimmable_nil
  -- a link has two arguments: the address that was escaped, and the text
  · have haddress : Neutral
        (Tex.command "href" (Tex.escapeAddress (opener.attrText "href"))) :=
      Tex.neutral_command (by decide) (Tex.neutral_escapeAddress _)
    have htext : Neutral (('{' :: inner.text) ++ ['}']) := Tex.neutral_braced h.neutral
    exact ((Tex.trimmable_command haddress).append (htext.trimmable (by decide))).append
      Tex.trimmable_nil

/-- White space may be cut off from running text that holds only well-nested text as it was
written. -/
theorem trimmable_keptByMarkup :
    KeptByMarkup (fun construct => ∀ t ∈ construct.verbatim?, WellNested t) Trimmable where
  toCompositional := Tex.compositional_trimmable
  escapeChar := Tex.trimmable_escapeChar
  lineFeed := Tex.trimmable_singleton (by decide)
  lineEnd := by
    have hneutral : Neutral (['\\'] ++ ['\\']) := fun n t => rfl
    exact hneutral.trimmable (by decide)
  formula := by
    intro source span hspan hnested
    have hspanNested : WellNested span := hnested span rfl
    -- a formula ends with a dollar, which no white space can be cut off from
    obtain ⟨body, rfl⟩ := Text.last_of_mem_segments hspan
    exact (hspanNested.neutral_concat (by decide)).trimmable (by decide)
  code := fun t => Tex.trimmable_command (Tex.neutral_command (by decide) (Tex.neutral_escape t))
  image := by
    intro source hnested
    have hsource : WellNested source := hnested source rfl
    exact Tex.trimmable_command (hsource.neutral_command (by decide))
  decorate := trimmable_decorate

/-- Running text may be stripped as a cell. -/
theorem trimmable_renderInlines {children : List Token} (h : Sound (constructsOfInlines children)) :
    Trimmable (renderInlines children).text :=
  trimmable_keptByMarkup.renderInlines h

/-! ## Blocks without blocks inside -/

/-- Headings of every level are commands with a name of letters. -/
theorem isCommandName_headingCommand (level : Int) :
    Tex.IsCommandName (headingCommand level) := by
  have hcommands : ∀ command ∈ headingCommands, Tex.IsCommandName command := by decide
  exact hcommands _ (headingCommand_mem level)

/-- The code of a listing ends with a line feed, unless there is none. -/
theorem neutral_listingBody {code : Text} (h : WellNested code) : Neutral (listingBody code) := by
  rw [listingBody]
  split
  · rename_i hlast
    rw [Bool.or_eq_true, List.isEmpty_iff, Text.endsWith, List.isSuffixOf_iff_suffix] at hlast
    rcases hlast with rfl | ⟨lines, rfl⟩
    · exact Tex.neutral_nil
    · exact h.neutral_concat (by decide)
  · exact h.neutral_append (by decide) (by decide)

/-- Only names of letters, digits and the three signs get through. -/
theorem isLanguageChar_of_checkLanguage {t name : Text} (h : Tex.checkLanguage t = .ok name) :
    ∀ c ∈ name, Tex.isLanguageChar c = true := by
  rw [Tex.checkLanguage] at h
  split at h
  · exact nomatch h
  split at h
  · exact nomatch h
  · rename_i hvalid
    obtain rfl := Except.ok.inj h
    rw [← List.all_eq_true]
    by_contra hall
    exact hvalid (by simp [hall])

/-- A language that is set holds no sign that TeX reads as more than a character. -/
theorem isPlain_listingLanguage (info : Text) : (listingLanguage info).1.all isPlain = true := by
  rw [List.all_eq_true]
  intro c hc
  rw [listingLanguage] at hc
  split at hc
  · rw [Tex.language] at hc
    split at hc
    · exact absurd hc List.not_mem_nil
    · split at hc
      · rename_i name hname
        -- only letters, digits and a few signs pass the check, and all of them are plain
        have hlanguage := isLanguageChar_of_checkLanguage hname c hc
        exact Tex.isPlain_of_class (by decide) (by decide) (by decide) hlanguage
      · exact absurd hc List.not_mem_nil
  · exact absurd hc List.not_mem_nil

/-- A listing opens and closes its environment around code that is nested well. -/
theorem neutral_renderListing {t : Token} (h : Sound (constructsOfListing t)) :
    Neutral (renderListing t).text := by
  have hcode : Neutral ('\n' :: listingBody t.content) := by
    have hnested : WellNested t.content := h (.listing t.content) List.mem_cons_self _ rfl
    have hbreak : Neutral ['\n'] := Tex.neutral_singleton (by decide)
    exact hbreak.append (neutral_listingBody hnested)
  have hname : "lstlisting".toList.all isPlain = true := by decide
  rw [renderListing]
  simp only
  -- with and without a language, which stands between brackets right behind the opening command
  split
  · exact Tex.neutral_environment hname hcode
  · have hstart : Neutral "[language=".toList := Tex.neutral_of_plain (by decide)
    have hend : Neutral [']'] := Tex.neutral_singleton (by decide)
    have harguments :=
      (hstart.append (Tex.neutral_of_plain (isPlain_listingLanguage t.info))).append hend
    have hlisting := Tex.neutral_environment hname (harguments.append hcode)
    simpa only [List.append_assoc] using hlisting

/-- The cells that a table keeps may be stripped. -/
theorem neutral_renderTable {options : Table.Options} {tokens : List Token}
    (h : Sound (constructsOfTable options tokens)) : Neutral (renderTable options tokens).text := by
  rcases renderTable_cases options tokens with ⟨-, htext⟩ | ⟨table, hlayout, htext, hcells⟩
  · rw [htext]
    exact Tex.neutral_nil
  · rw [htext]
    refine Table.neutral_layout hlayout fun row hrow cell hcell => ?_
    obtain ⟨kept, hkept, rfl⟩ := List.mem_map.1 hrow
    obtain ⟨children, hchildren, rfl⟩ := List.mem_map.1 hcell
    exact trimmable_renderInlines fun construct hconstruct =>
      h construct (hcells kept hkept children hchildren hconstruct)

/-! ## Blocks that hold blocks -/

/-- Neutral fragments are neutral when they are joined by a neutral separator. -/
theorem neutral_joinTexts {separator : Text} {fragments : List Fragment}
    (hseparator : Neutral separator) (h : ∀ fragment ∈ fragments, Neutral fragment.text) :
    Neutral (Fragment.joinWith separator fragments).text := by
  refine Tex.compositional_neutral.intercalate hseparator fun t ht => ?_
  rw [Fragment.texts, List.mem_filter, List.mem_map] at ht
  obtain ⟨⟨fragment, hfragment, rfl⟩, -⟩ := ht
  exact h fragment hfragment

/-- Neutral lines between those that open and close an environment. -/
theorem neutral_environmentLines {name : String} (hname : name.toList.all isPlain = true)
    {lines : List Text} (h : ∀ line ∈ lines, Neutral line) :
    Neutral (environmentLines name lines) := by
  have hbreak : Neutral ['\n'] := Tex.neutral_singleton (by decide)
  have hbody : Neutral (lines.flatMap (['\n'] ++ ·) ++ ['\n']) := by
    refine Neutral.append ?_ hbreak
    exact Tex.compositional_neutral.flatMap fun line hline => hbreak.append (h line hline)
  have hlines : environmentLines name lines =
      Tex.opening name ++ (lines.flatMap (['\n'] ++ ·) ++ ['\n']) ++ Tex.closing name := by
    rw [environmentLines, List.cons_append, Text.intercalate_cons]
    simp
  rw [hlines]
  exact Tex.neutral_environment hname hbody

/-- An item is neutral if its blocks are. -/
theorem neutral_renderItem {blocks : List Fragment}
    (h : ∀ fragment ∈ blocks, Neutral fragment.text) : Neutral (renderItem blocks).text := by
  have hbody := neutral_joinTexts (Tex.neutral_singleton (c := '\n') (by decide)) h
  rw [renderItem]
  show Neutral (if _ then _ else _)
  split
  · exact fun n t => rfl
  · have hitem : Neutral "\\item ".toList := fun n t => rfl
    exact hitem.append hbody

/-- A list is neutral if its items are. -/
theorem neutral_renderList (kind : String) {items : List Fragment}
    (h : ∀ fragment ∈ items, Neutral fragment.text) :
    Neutral (renderList (listEnvironment kind) items).text := by
  have hname : (listEnvironment kind).toList.all isPlain = true := by
    rw [listEnvironment]
    split <;> decide
  have hlines : ∀ line ∈ items.map Fragment.text, Neutral line := by
    intro line hline
    obtain ⟨fragment, hfragment, rfl⟩ := List.mem_map.1 hline
    exact h fragment hfragment
  rw [renderList_eq]
  exact neutral_environmentLines hname hlines

/-- A quote is neutral if its blocks are. -/
theorem neutral_renderQuote {blocks : List Fragment}
    (h : ∀ fragment ∈ blocks, Neutral fragment.text) : Neutral (renderQuote blocks).text := by
  have hbreak : Neutral ['\n', '\n'] := Tex.neutral_of_plain (by decide)
  have hbody := neutral_joinTexts hbreak h
  refine neutral_environmentLines (by decide) fun line hline => ?_
  split at hline
  · exact absurd hline List.not_mem_nil
  · rw [List.mem_singleton.1 hline]
    exact hbody

section

variable (options : Table.Options)

mutual

/-- A part of a body is neutral if what stands in it as it was written is well nested. -/
theorem neutral_part :
    ∀ part : Part, Sound (part.constructs options) → Neutral (part.render options).text
  | .heading level _, h => by
    rw [Part.constructs] at h
    rw [Part.render]
    exact Tex.neutral_command (isCommandName_headingCommand level)
      (trimmable_renderInlines h).neutral
  | .unreadable _, _ => by
    rw [Part.render]
    exact Tex.neutral_nil
  | .paragraph _, h => by
    rw [Part.constructs] at h
    rw [Part.render]
    exact (trimmable_renderInlines h).neutral
  | .list kind items, h => by
    rw [Part.constructs] at h
    rw [Part.render]
    exact neutral_renderList kind (neutral_itemParts items h)
  | .quote parts, h => by
    rw [Part.constructs] at h
    rw [Part.render]
    exact neutral_renderQuote (neutral_parts parts h)
  | .listing _, h => by
    rw [Part.constructs] at h
    rw [Part.render]
    exact neutral_renderListing h
  -- the command of a rule is neutral by evaluation
  | .rule, _ => by
    rw [Part.render]
    exact fun n t => rfl
  | .table _, h => by
    rw [Part.constructs] at h
    rw [Part.render]
    exact neutral_renderTable h
  | .passed t, _ => by
    rw [Part.render, renderPassed]
    split <;> exact Tex.neutral_nil

/-- What is emitted for sound parts is neutral, part by part. -/
theorem neutral_parts :
    ∀ parts : List Part, Sound (constructsOfParts options parts) →
      ∀ fragment ∈ renderParts options parts, Neutral fragment.text
  | [], _ => by
    rw [renderParts]
    exact fun _ hfragment => absurd hfragment List.not_mem_nil
  | part :: parts, h => by
    rw [constructsOfParts, sound_append] at h
    rw [renderParts, List.forall_mem_cons]
    exact ⟨neutral_part part h.1, neutral_parts parts h.2⟩

/-- What is emitted for the items of a list is neutral, item by item. -/
theorem neutral_itemParts :
    ∀ items : List (List Part), Sound (constructsOfItems options items) →
      ∀ fragment ∈ renderItemParts options items, Neutral fragment.text
  | [], _ => by
    rw [renderItemParts]
    exact fun _ hfragment => absurd hfragment List.not_mem_nil
  | parts :: items, h => by
    rw [constructsOfItems, sound_append] at h
    rw [renderItemParts, List.forall_mem_cons]
    exact ⟨neutral_renderItem (neutral_parts parts h.1), neutral_itemParts items h.2⟩

end

/-- **A body is well nested if what stands in it as it was written is**, whether its tokens are
balanced or not: every brace and every environment that is opened is closed in turn. -/
theorem wellNested_render (tokens : List Token)
    (h : ∀ construct ∈ constructs options tokens, ∀ t ∈ construct.verbatim?, WellNested t) :
    WellNested (render options tokens).text := by
  have hbreak : Neutral ['\n', '\n'] := Tex.neutral_of_plain (by decide)
  rw [render_eq]
  exact (neutral_joinTexts hbreak (neutral_parts options (outline tokens) h)).wellNested

end

/-- A listing with a pair of braces, and a formula and an image in a paragraph that nothing closes:
each of them is nested well, and so is the body. -/
theorem wellNested_render_openParagraph :
    (∀ construct ∈ constructs {} openParagraph, ∀ t ∈ construct.verbatim?, WellNested t) ∧
      WellNested (render {} openParagraph).text := by
  have hsound : ∀ construct ∈ constructs {} openParagraph, ∀ t ∈ construct.verbatim?,
      WellNested t := by
    rw [constructs_openParagraph]
    decide
  exact ⟨hsound, wellNested_render {} openParagraph hsound⟩

end MarkTex.Body
