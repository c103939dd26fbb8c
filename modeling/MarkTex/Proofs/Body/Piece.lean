import MarkTex.Proofs.Body.BreakKind
import MarkTex.Proofs.Body.Marker
import MarkTex.Proofs.Body.Reading
import MarkTex.Proofs.Tex.Piece

/-!
# Pieces of running text

Where nothing is kept as it is, running text is written in pieces (`write_inlinePieces`): the
characters of its texts, the ends of its lines, and the markup around its phrases. Each of them is
faithful by itself, wherever it stands (`loose_inlinePieces`), so pieces may be left out at both
ends when a cell is stripped.

## Shape of the proof

By recursion on the phrases. A run without formulas is set sign by sign, so its pieces are those of
its signs.
-/

namespace MarkTex.Body

open Markdown (Token)
open Tex (Piece Faithful Inert writePieces)

/-! ## Pieces of running text -/

/-- The pieces of a sign of a run. -/
def Sign.pieces : Sign → List Piece
  | plain c => [.text c]
  | hardBreak => [.seeker .lineEnd, .markup ['\n']]

/-- The pieces of a leaf. An image has none, since its source is kept as it is. -/
def leafPieces (child : Token) : List Piece :=
  if child.kind = "code_inline" then
    .markup "\\texttt\x7b".toList :: child.content.map .text ++ [.markup ['}']]
  else if child.kind = "image" then []
  else if child.kind = "html_inline" || child.kind = "html_block" then []
  else child.content.map .text

mutual

/-- The pieces of a phrase. -/
def Phrase.pieces : Phrase → List Piece
  | .run children => (countedSigns children).flatMap Sign.pieces
  | .leaf child => leafPieces child
  | .marked opener _ inner => .markup (decoration opener) :: phrasePieces inner ++ [.markup ['}']]
  | .unclosed _ => []
  | .unmatched _ => []

/-- The pieces of phrases. -/
def phrasePieces : List Phrase → List Piece
  | [] => []
  | phrase :: phrases => phrase.pieces ++ phrasePieces phrases

end

/-- The pieces of a running text. -/
def inlinePieces (children : List Token) : List Piece :=
  phrasePieces (arrange children)

/-! ## Running text is written in its pieces -/

/-- Text of which nothing is kept as it is has no formulas. -/
theorem not_math_of_noneVerbatim {source : Text} (h : NoneVerbatim (constructsOfText source))
    (span : Text) : .math span ∉ Text.segments source := by
  intro hmem
  have hformula : Construct.formula span ∈ constructsOfText source :=
    List.mem_append_left _ (List.mem_map_of_mem (Text.mem_formulas.2 hmem))
  exact nomatch h _ hformula

/-- Segments without formulas are set sign by sign. -/
theorem setSegments_of_plain {segments : List Segment} (h : ∀ span, .math span ∉ segments)
    {signs : List Sign} (hlength : signs.length = (segments.flatMap Segment.text).length) :
    setSegments segments signs = signs.flatMap Sign.set := by
  induction segments generalizing signs with
  | nil =>
    obtain rfl : signs = [] := List.length_eq_zero_iff.1 hlength
    rfl
  | cons segment rest ih =>
    have hrest : ∀ span, .math span ∉ rest := fun span hspan =>
      h span (List.mem_cons_of_mem _ hspan)
    cases segment with
    | math t => exact absurd List.mem_cons_self (h t)
    | plain t =>
      -- a plain segment is set by as many signs as it has characters, and the rest by the others
      have hdrop : (signs.drop t.length).length = (rest.flatMap Segment.text).length := by
        rw [List.flatMap_cons, List.length_append, Segment.text] at hlength
        rw [List.length_drop]
        omega
      rw [setSegments, ih hrest hdrop, ← List.flatMap_append, List.take_append_drop]

/-- Segments without formulas are escaped as one text. -/
theorem escapeSegments_of_plain {segments : List Segment} (h : ∀ span, .math span ∉ segments) :
    segments.flatMap Tex.escapeSegment = Tex.escape (segments.flatMap Segment.text) := by
  induction segments with
  | nil => rfl
  | cons segment rest ih =>
    have hrest := ih fun span hspan => h span (List.mem_cons_of_mem _ hspan)
    cases segment with
    | math t => exact absurd List.mem_cons_self (h t)
    | plain t =>
      rw [List.flatMap_cons, List.flatMap_cons, hrest, Tex.escape, Tex.escape, List.flatMap_append]
      rfl

/-- The pieces of signs are written as the signs are set. -/
theorem writePieces_signs (signs : List Sign) :
    writePieces (signs.flatMap Sign.pieces) = signs.flatMap Sign.set := by
  rw [writePieces, List.flatMap_assoc]
  refine congrArg (signs.flatMap ·) (funext fun sign => ?_)
  cases sign with
  | plain c => exact List.append_nil _
  | hardBreak => rfl

/-- The pieces of a run are written as the run is emitted, where it has no formulas. -/
theorem write_run {run : List Token} (h : NoneVerbatim (constructsOfText (runSource run))) :
    writePieces ((countedSigns run).flatMap Sign.pieces) = (renderRun run).text := by
  have hlength : (countedSigns run).length =
      ((Text.segments (runSource run)).flatMap Segment.text).length := by
    rw [countedSigns, length_signsInTurn, Text.flatMap_text_segments]
  rw [writePieces_signs, text_renderRun, setSegments_of_plain (not_math_of_noneVerbatim h) hlength]

/-- The pieces of a leaf are written as the leaf is emitted, where nothing of it is kept as it is.
-/
theorem write_leafPieces {child : Token} (h : NoneVerbatim (constructsOfLeaf child)) :
    writePieces (leafPieces child) = (renderLeaf child).text := by
  rw [constructsOfLeaf] at h
  rw [leafPieces, renderLeaf]
  split
  · rw [Tex.writePieces_append, Tex.writePieces_cons, Tex.writePieces_map_text]
    simp [Piece.write, Fragment.needing, Tex.command, Tex.braced]
  rename_i hcode
  rw [if_neg hcode] at h
  split
  · rename_i himage
    rw [if_pos himage] at h
    -- the source of an image would be kept as it is
    exact absurd (h _ (List.mem_singleton_self _)) (Option.some_ne_none _)
  rename_i himage
  rw [if_neg himage] at h
  split
  · rfl
  rename_i hmarkup
  rw [if_neg hmarkup] at h
  have hplain := escapeSegments_of_plain (not_math_of_noneVerbatim h)
  rw [Text.flatMap_text_segments] at hplain
  rw [Tex.writePieces_map_text, ← hplain]
  rfl

mutual

/-- The pieces of a phrase are written as its text. -/
theorem write_phrase :
    ∀ phrase : Phrase, NoneVerbatim phrase.constructs → writePieces phrase.pieces = phrase.text
  | .run _, h => by
    rw [Phrase.constructs] at h
    rw [Phrase.pieces, Phrase.text, write_run h]
  | .leaf _, h => by
    rw [Phrase.constructs] at h
    rw [Phrase.pieces, Phrase.text, write_leafPieces h]
  | .marked opener _ inner, h => by
    rw [Phrase.constructs, noneVerbatim_append] at h
    rw [Phrase.pieces, Phrase.text, Tex.writePieces_append, Tex.writePieces_cons,
      write_phrasePieces inner h.2]
    rfl
  | .unclosed _, _ => by
    rw [Phrase.pieces, Phrase.text]
    rfl
  | .unmatched _, _ => by
    rw [Phrase.pieces, Phrase.text]
    rfl

/-- The pieces of phrases are written as their text. -/
theorem write_phrasePieces :
    ∀ phrases : List Phrase, NoneVerbatim (constructsOfPhrases phrases) →
      writePieces (phrasePieces phrases) = textOfPhrases phrases
  | [], _ => by
    rw [phrasePieces, textOfPhrases]
    rfl
  | phrase :: phrases, h => by
    rw [constructsOfPhrases, noneVerbatim_append] at h
    rw [phrasePieces, textOfPhrases, Tex.writePieces_append, write_phrase phrase h.1,
      write_phrasePieces phrases h.2]

end

/-- Where nothing is kept as it is, running text is written in its pieces. -/
theorem write_inlinePieces {children : List Token}
    (h : NoneVerbatim (constructsOfInlines children)) :
    writePieces (inlinePieces children) = (renderInlines children).text := by
  rw [renderInlines_eq, text_renderPhrases, inlinePieces]
  exact write_phrasePieces _ h

/-! ## Each piece of running text is faithful by itself -/

/-- A closing brace is loose: it is neither a command nor a sign that one looks for. -/
theorem loose_brace : (Piece.markup ['}']).Loose := by
  have hfaithful : Faithful [.markup ['}']] :=
    Tex.faithful_markup (Tex.inert_of_not_mem (by decide)) (Piece.honest_of_first? (by decide))
  exact ⟨hfaithful.reads, hfaithful.honest _ (List.mem_singleton_self _), Tex.whole_singleton '}'⟩

/-- Markup from a backslash to the brace that opens an argument. -/
theorem loose_opener {t : Text} (h : Inert ('\\' :: (t ++ ['{']))) :
    (Piece.markup ('\\' :: (t ++ ['{']))).Loose :=
  ⟨Tex.reads_markup h, Piece.honest_backslash rfl, Tex.whole_backslash t rfl⟩

/-- A command of another name than those that look for arguments is loose. -/
theorem loose_command (name : String) (h : Tex.IsOtherName name.toList) :
    (Piece.markup ('\\' :: (name.toList ++ ['{']))).Loose := by
  have hbrace : Inert ['{'] := Tex.inert_of_not_mem (by decide)
  exact loose_opener (Tex.inert_name h rfl hbrace)

/-- The markup in front of the text of a link. -/
theorem loose_link (address : Text) :
    (Piece.markup
      ("\\href\x7b".toList ++ Tex.escapeAddress address ++ "\x7d\x7b".toList)).Loose := by
  have hform : "\\href\x7b".toList ++ Tex.escapeAddress address ++ "\x7d\x7b".toList =
      '\\' :: ("href\x7b".toList ++ Tex.escapeAddress address ++ ['}'] ++ ['{']) := by
    simp
  -- the address is escaped, so no command can start in it
  have hbrace : Inert ['{'] := Tex.inert_of_not_mem (by decide)
  have hname : Tex.IsOtherName "href".toList := by
    decide
  have hcommand : Inert "\\href\x7b".toList := Tex.inert_name hname rfl hbrace
  have hbetween : Inert "\x7d\x7b".toList := Tex.inert_of_not_mem (by decide)
  have haddress := Tex.compositional_inert.append hcommand (Tex.inert_escapeAddress address)
  have hinert := Tex.compositional_inert.append haddress hbetween
  rw [hform] at hinert ⊢
  exact loose_opener hinert

/-- What a marked phrase begins with is loose, whatever its marker is. -/
theorem loose_decoration (opener : Token) : (Piece.markup (decoration opener)).Loose := by
  rw [decoration]
  split
  · exact loose_command "textbf" (by decide)
  split
  · exact loose_command "textit" (by decide)
  split
  · exact loose_command "sout" (by decide)
  · exact loose_link _

/-- The pieces of a sign are loose. -/
theorem loose_sign (sign : Sign) : ∀ piece ∈ sign.pieces, piece.Loose := by
  cases sign with
  | plain c => exact List.forall_mem_singleton.2 (Tex.loose_text c)
  | hardBreak =>
    rw [Sign.pieces, List.forall_mem_cons, List.forall_mem_singleton]
    exact ⟨Tex.loose_lineEnd, Tex.loose_lineFeed⟩

/-- Characters of the document are loose. -/
theorem loose_map_text (t : Text) : ∀ piece ∈ t.map Piece.text, piece.Loose := by
  rw [List.forall_mem_map]
  exact fun c _ => Tex.loose_text c

/-- The pieces of a leaf are loose. -/
theorem loose_leafPieces (child : Token) : ∀ piece ∈ leafPieces child, piece.Loose := by
  rw [leafPieces]
  split
  · rw [List.cons_append, List.forall_mem_cons, List.forall_mem_append, List.forall_mem_singleton]
    exact ⟨loose_command "texttt" (by decide), loose_map_text _, loose_brace⟩
  split
  · exact List.forall_mem_nil _
  split
  · exact List.forall_mem_nil _
  · exact loose_map_text _

mutual

/-- The pieces of a phrase are loose. -/
theorem loose_phrase : ∀ phrase : Phrase, ∀ piece ∈ phrase.pieces, piece.Loose
  | .run run => by
    rw [Phrase.pieces]
    -- the pieces of a run are those of its signs
    intro piece hpiece
    obtain ⟨sign, -, hsign⟩ := List.mem_flatMap.1 hpiece
    exact loose_sign sign piece hsign
  | .leaf child => by
    rw [Phrase.pieces]
    exact loose_leafPieces child
  | .marked opener _ inner => by
    rw [Phrase.pieces, List.cons_append, List.forall_mem_cons, List.forall_mem_append,
      List.forall_mem_singleton]
    exact ⟨loose_decoration opener, loose_phrasePieces inner, loose_brace⟩
  | .unclosed _ => by
    rw [Phrase.pieces]
    exact List.forall_mem_nil _
  | .unmatched _ => by
    rw [Phrase.pieces]
    exact List.forall_mem_nil _

/-- The pieces of phrases are loose. -/
theorem loose_phrasePieces : ∀ phrases : List Phrase, ∀ piece ∈ phrasePieces phrases, piece.Loose
  | [] => by
    rw [phrasePieces]
    exact List.forall_mem_nil _
  | phrase :: phrases => by
    rw [phrasePieces, List.forall_mem_append]
    exact ⟨loose_phrase phrase, loose_phrasePieces phrases⟩

end

/-- The pieces of running text are loose. -/
theorem loose_inlinePieces (children : List Token) : ∀ piece ∈ inlinePieces children, piece.Loose :=
  loose_phrasePieces _

end MarkTex.Body
