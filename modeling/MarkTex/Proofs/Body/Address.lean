import MarkTex.Proofs.Body.Marker
import MarkTex.Proofs.Tex.Address

/-!
# Addresses in running text

The address of a link is escaped when the link is emitted, so it is guarded in its argument whatever
it holds. The source of an image is emitted as it was written, so it is guarded only if it holds
nothing that would have to be escaped (`guarded_addresses`).

## Shape of the proof

What a phrase is emitted as stands in the text that it is a part of, at any depth
(`Within.text_occurs`). A link is a marker that was closed; an image is a leaf, wherever it stands
among the children (`within_arrange`).
-/

namespace MarkTex.Body

open Markdown (Token)
open Tex (Guarded escapeAddress)

/-! ## Phrases inside of phrases -/

/-- Whether a phrase is one of some phrases, or stands inside of one of them. -/
inductive Within (phrase : Phrase) : List Phrase → Prop where
  | here {phrases : List Phrase} (h : phrase ∈ phrases) : Within phrase phrases
  | inside {phrases inner : List Phrase} {opener closer : Token}
    (h : .marked opener closer inner ∈ phrases) (hinner : Within phrase inner) :
    Within phrase phrases

/-- What stands in some phrases stands in all lists of phrases that hold them. -/
theorem Within.mono {phrase : Phrase} {phrases others : List Phrase} (h : Within phrase phrases)
    (hsub : phrases ⊆ others) : Within phrase others := by
  cases h with
  | here hmem => exact .here (hsub hmem)
  | inside hmem hinner => exact .inside (hsub hmem) hinner

/-- The text of a phrase stands in the text of the phrases that it is one of. -/
theorem text_occurs_of_mem {phrase : Phrase} {phrases : List Phrase} (h : phrase ∈ phrases) :
    phrase.text <:+: textOfPhrases phrases := by
  induction phrases with
  | nil => exact absurd h List.not_mem_nil
  | cons first phrases ih =>
    rw [textOfPhrases]
    rcases List.mem_cons.1 h with rfl | hrest
    · exact (List.prefix_append _ _).isInfix
    · exact (ih hrest).trans (List.suffix_append _ _).isInfix

/-- A phrase is emitted as a part of the phrases that it stands in. -/
theorem Within.text_occurs {phrase : Phrase} {phrases : List Phrase} (h : Within phrase phrases) :
    phrase.text <:+: textOfPhrases phrases := by
  induction h with
  | here hmem => exact text_occurs_of_mem hmem
  | @inside phrases inner opener closer hmem _ ih =>
    refine ih.trans (List.IsInfix.trans ?_ (text_occurs_of_mem hmem))
    rw [Phrase.text]
    exact ⟨decoration opener, ['}'], rfl⟩

section

variable {child : Token}

/-- A leaf is neither part of a run nor a marker. -/
theorem kinds_of_isLeafKind (hkind : isLeafKind child.kind = true) :
    isRunKind child.kind = false ∧ closerOf? child.kind = none ∧ isCloser child.kind = false := by
  rw [isLeafKind] at hkind
  simpa [and_assoc] using hkind

/-- A leaf is no marker that opens a phrase. -/
theorem ne_of_isOpener (hkind : isLeafKind child.kind = true) {opener : Token}
    (h : (closerOf? opener.kind).isSome = true) : child ≠ opener := by
  rintro rfl
  rw [(kinds_of_isLeafKind hkind).2.1] at h
  exact Bool.false_ne_true h

/-- A leaf is no marker that closes a phrase. -/
theorem ne_of_isCloser (hkind : isLeafKind child.kind = true) {closer : Token}
    (h : isCloser closer.kind = true) : child ≠ closer := by
  rintro rfl
  rw [(kinds_of_isLeafKind hkind).2.2] at h
  exact Bool.false_ne_true h

mutual

/-- The leaves among the children of a phrase stand in it. -/
theorem within_phrase (hkind : isLeafKind child.kind = true) :
    ∀ (phrase : Phrase) (innermost : Option Token), phrase.Fits innermost →
      child ∈ phrase.children → Within (.leaf child) [phrase]
  | .run children, _, hfits, hmem => by
    rw [Phrase.Fits] at hfits
    rw [Phrase.children] at hmem
    have hrun := hfits.2 child hmem
    rw [(kinds_of_isLeafKind hkind).1] at hrun
    -- a run holds texts and line breaks, and no leaves
    exact absurd hrun Bool.false_ne_true
  | .leaf other, _, _, hmem => by
    rw [Phrase.children, List.mem_singleton] at hmem
    rw [hmem]
    exact .here (List.mem_singleton_self _)
  | .marked opener closer inner, _, hfits, hmem => by
    rw [Phrase.Fits] at hfits
    obtain ⟨hpartner, -, hinner⟩ := hfits
    have hopener : child ≠ opener := ne_of_isOpener hkind (by rw [hpartner]; rfl)
    have hcloser : child ≠ closer := ne_of_isCloser hkind (kinds_of_closerOf? hpartner).2.2.2
    rw [Phrase.children, List.mem_append, List.mem_cons, List.mem_singleton] at hmem
    -- the markers of the phrase are no leaves, so the leaf is among what they enclose
    have hmemInner := (hmem.resolve_right hcloser).resolve_left hopener
    have hwithin := within_phrases hkind inner (some opener) hinner hmemInner
    exact .inside (List.mem_singleton_self _) hwithin
  | .unclosed opener, _, hfits, hmem => by
    rw [Phrase.Fits] at hfits
    rw [Phrase.children, List.mem_singleton] at hmem
    exact absurd hmem (ne_of_isOpener hkind hfits)
  | .unmatched closer, _, hfits, hmem => by
    rw [Phrase.Fits] at hfits
    rw [Phrase.children, List.mem_singleton] at hmem
    exact absurd hmem (ne_of_isCloser hkind hfits.1)

/-- A leaf among the children of phrases that fit stands in these phrases, at some depth. -/
theorem within_phrases (hkind : isLeafKind child.kind = true) :
    ∀ (phrases : List Phrase) (innermost : Option Token), PhrasesFit innermost phrases →
      child ∈ childrenOfPhrases phrases → Within (.leaf child) phrases
  | [], _, _, hmem => by
    rw [childrenOfPhrases] at hmem
    exact absurd hmem List.not_mem_nil
  | phrase :: phrases, innermost, hfit, hmem => by
    rw [PhrasesFit] at hfit
    rw [childrenOfPhrases, List.mem_append] at hmem
    rcases hmem with hfirst | hrest
    · exact (within_phrase hkind phrase innermost hfit.1 hfirst).mono (by simp)
    · exact (within_phrases hkind phrases _ hfit.2.2 hrest).mono (List.subset_cons_self _ _)

end

/-- Each leaf among the children stands in one of the phrases. -/
theorem within_arrange (hkind : isLeafKind child.kind = true) {children : List Token}
    (h : child ∈ children) : Within (.leaf child) (arrange children) := by
  refine within_phrases hkind (arrange children) none (stacked_arrange children) ?_
  rwa [childrenOfPhrases_arrange]

end

/-! ## Links and images -/

/-- A link is emitted with its address escaped, and with the text of what is in it. -/
theorem text_link {opener : Token} (h : opener.kind = "link_open") (closer : Token)
    (inner : List Phrase) :
    (Phrase.marked opener closer inner).text =
      Tex.command "href" (escapeAddress (opener.attrText "href")) ++
        Tex.braced (textOfPhrases inner) := by
  rw [Phrase.text, decoration]
  simp [h, Tex.command, Tex.braced]

/-- An image is emitted with its source as it was written. -/
theorem text_image {child : Token} (h : child.kind = "image") :
    (Phrase.leaf child).text = Tex.command "includegraphics" (child.attrText "src") := by
  rw [Phrase.text, renderLeaf]
  simp [h, Fragment.needing]

/-- **Addresses of links are guarded, sources of images only if they need no escaping.** Each link
of a running text, at any depth, is emitted with its address escaped, which is guarded there
whatever it holds. Each image is emitted with its source as it was written, which is guarded there
exactly if it holds no backslash, no brace, no percent sign and no number sign. -/
theorem guarded_addresses (children : List Token) :
    (∀ opener closer inner, opener.kind = "link_open" →
        Within (.marked opener closer inner) (arrange children) →
          Tex.command "href" (escapeAddress (opener.attrText "href")) ++
              Tex.braced (textOfPhrases inner) <:+: (renderInlines children).text ∧
            Guarded (opener.attrText "href") (escapeAddress (opener.attrText "href"))) ∧
      ∀ child ∈ children, child.kind = "image" →
        Tex.command "includegraphics" (child.attrText "src") <:+: (renderInlines children).text ∧
          (Guarded (child.attrText "src") (child.attrText "src") ↔
            ∀ c ∈ child.attrText "src", c ∉ ['\\', '{', '}', '%', '#']) := by
  have htext : (renderInlines children).text = textOfPhrases (arrange children) := by
    rw [renderInlines_eq, text_renderPhrases]
  rw [htext]
  constructor
  · intro opener closer inner hlink hwithin
    -- the text of the link is somewhere in what is emitted, at whatever depth it stands
    have hoccurs := hwithin.text_occurs
    rw [text_link hlink] at hoccurs
    exact ⟨hoccurs, Tex.guarded_iff.2 rfl⟩
  · intro child hmem himage
    have hleaf : isLeafKind child.kind = true := by
      rw [himage]
      decide
    have hoccurs := (within_arrange hleaf hmem).text_occurs
    rw [text_image himage] at hoccurs
    refine ⟨hoccurs, ?_⟩
    rw [Tex.guarded_iff, eq_comm, Tex.escapeAddress_eq_self_iff]

/-- The marker of a link to an address with a percent sign. -/
def encodedLink : Token :=
  { kind := "link_open", attributes := [("href", .text "a%20b".toList)] }

/-- An image whose source needs no escaping. -/
def plainImage : Token :=
  { kind := "image", attributes := [("src", .text "c.png".toList)] }

/-- A link around an image: both addresses are guarded, that of the link because it is escaped and
that of the image because there is nothing to escape in it. -/
theorem guarded_addresses_linkedImage :
    let children := [encodedLink, plainImage, { kind := "link_close" }]
    Within (.marked encodedLink { kind := "link_close" } [.leaf plainImage]) (arrange children) ∧
      plainImage ∈ children ∧
      Tex.command "href" "a\\%20b".toList ++
          Tex.braced (Tex.command "includegraphics" "c.png".toList) <:+:
        (renderInlines children).text ∧
      Guarded "a%20b".toList "a\\%20b".toList ∧ Guarded "c.png".toList "c.png".toList := by
  intro children
  have harrange : arrange children =
      [.marked encodedLink { kind := "link_close" } [.leaf plainImage]] := by
    simp [children, encodedLink, plainImage, arrange, arrangeFrom, isRunKind, closerOf?, isCloser,
      closeRun, leaveOpen]
  have hlink : Within (.marked encodedLink { kind := "link_close" } [.leaf plainImage])
      (arrange children) := by
    rw [harrange]
    exact .here (List.mem_singleton_self _)
  have himage : plainImage ∈ children := List.mem_cons_of_mem _ List.mem_cons_self
  obtain ⟨htext, hguarded⟩ := (guarded_addresses children).1 _ _ _ rfl hlink
  obtain ⟨-, hplain⟩ := (guarded_addresses children).2 plainImage himage rfl
  have hinner : textOfPhrases [.leaf plainImage] =
      Tex.command "includegraphics" "c.png".toList := by
    rw [textOfPhrases, textOfPhrases, text_image rfl, List.append_nil]
    rfl
  rw [hinner] at htext
  exact ⟨hlink, himage, htext, hguarded, hplain.2 (Tex.escapeAddress_eq_self_iff.1 rfl)⟩

/-- An image whose file name is percent-encoded. -/
def encodedImage : Token :=
  { kind := "image", attributes := [("src", .text "my%20pic.png".toList)] }

/-- The percent sign in the source of an image hides the brace behind it. -/
theorem not_guarded_encodedImage :
    ¬ ∀ child : Token, child.kind = "image" →
      ∃ argument, (renderInlines [child]).text = Tex.command "includegraphics" argument ∧
        Guarded (child.attrText "src") argument := by
  intro h
  obtain ⟨argument, htext, hguarded⟩ := h encodedImage rfl
  have hsource : (renderInlines [encodedImage]).text =
      Tex.command "includegraphics" (encodedImage.attrText "src") := by
    have harrange : arrange [encodedImage] = [.leaf encodedImage] := by
      simp [encodedImage, arrange, arrangeFrom, isRunKind, closerOf?, isCloser, closeRun, leaveOpen]
    rw [renderInlines_eq, text_renderPhrases, harrange, textOfPhrases, textOfPhrases,
      text_image rfl, List.append_nil]
  have hargument : argument = encodedImage.attrText "src" := by
    rw [hsource] at htext
    simpa [Tex.command, Tex.braced] using htext.symm
  rw [Tex.guarded_iff, hargument] at hguarded
  exact absurd hguarded (by decide)

end MarkTex.Body
