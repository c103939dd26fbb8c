import MarkTex.Proofs.Body.Construct
import MarkTex.Proofs.Text.Lines

/-!
# What holds of running text

A property of texts that holds of every piece that running text is put together from holds of all
running text (`KeptByMarkup.renderInlines`). What is emitted as it was written may have the property
for a reason of its own, which is asked of the constructs.
-/

namespace MarkTex.Body

open Markdown (Token)

/-- The property `p` of texts is kept by what running text puts together, if its constructs are as
`q` asks. -/
structure KeptByMarkup (q : Construct → Prop) (p : Text → Prop) : Prop
    extends Text.Compositional p where
  escapeChar : ∀ c, p (Tex.escapeChar c)
  lineFeed : p ['\n']
  lineEnd : p ['\\', '\\']
  formula : ∀ {source span : Text}, .math span ∈ Text.segments source → q (.formula span) → p span
  code : ∀ t, p (Tex.command "texttt" (Tex.escape t))
  image : ∀ {source : Text}, q (.image source) → p (Tex.command "includegraphics" source)
  decorate : ∀ (opener : Token) {inner : Fragment}, p inner.text → p (decorate opener inner).text

namespace KeptByMarkup

variable {q : Construct → Prop} {p : Text → Prop} (hp : KeptByMarkup q p)

include hp

/-! ## Runs and leaves -/

/-- Plain text with its line ends has the property. -/
theorem emitPlain (t : Text) (breaks : List Bool) : p (emitPlain t breaks).1 := by
  induction t generalizing breaks with
  | nil => exact hp.nil
  | cons c t ih =>
    rw [Body.emitPlain]
    split
    · have hbreak : p (emitBreak breaks).1 := by
        -- a line feed is emitted as it is, or behind the sign that ends a line
        rcases emitBreak_cases breaks with h | h
        · rw [h]
          exact hp.lineFeed
        · rw [h]
          exact hp.append hp.lineEnd hp.lineFeed
      exact hp.append hbreak (ih _)
    · exact hp.append (hp.escapeChar c) (ih _)

/-- Formulas are the only segments that are emitted as they are. -/
theorem emitSegments {segments : List Segment} (h : ∀ span, .math span ∈ segments → p span)
    (breaks : List Bool) : p (emitSegments segments breaks) := by
  induction segments generalizing breaks with
  | nil => exact hp.nil
  | cons segment segments ih =>
    have hrest := ih fun span hspan => h span (List.mem_cons_of_mem _ hspan)
    cases segment with
    | math span =>
      rw [Body.emitSegments]
      exact hp.append (h span List.mem_cons_self) (hrest _)
    | plain t =>
      rw [Body.emitSegments]
      exact hp.append (hp.emitPlain t breaks) (hrest _)

/-- A formula has the property if its construct is as asked. -/
theorem of_mem_segments {source span : Text}
    (h : ∀ construct ∈ constructsOfText source, q construct)
    (hspan : .math span ∈ Text.segments source) : p span := by
  refine hp.formula hspan (h _ ?_)
  exact List.mem_append_left _ (List.mem_map_of_mem (Text.mem_formulas.2 hspan))

/-- A run has the property if its formulas are as asked. -/
theorem renderRun {run : List Token}
    (h : ∀ construct ∈ constructsOfText (runSource run), q construct) : p (renderRun run).text :=
  hp.emitSegments (fun _ hspan => hp.of_mem_segments h hspan) _

/-- Text that is escaped around its formulas has the property if they are as asked. -/
theorem escapeAroundMath {source : Text} (h : ∀ construct ∈ constructsOfText source, q construct) :
    p (Tex.escapeAroundMath source) := by
  refine hp.flatMap fun segment hsegment => ?_
  cases segment with
  | plain t => exact hp.flatMap fun c _ => hp.escapeChar c
  | math span => exact hp.of_mem_segments h hsegment

/-- A leaf has the property if what is kept of it is as asked. -/
theorem renderLeaf {child : Token} (h : ∀ construct ∈ constructsOfLeaf child, q construct) :
    p (renderLeaf child).text := by
  rw [constructsOfLeaf] at h
  rw [Body.renderLeaf]
  split
  · exact hp.code child.content
  rename_i hcode
  rw [if_neg hcode] at h
  split
  · rename_i himage
    rw [if_pos himage] at h
    exact hp.image (h _ (List.mem_singleton_self _))
  rename_i himage
  rw [if_neg himage] at h
  split
  · exact hp.nil
  rename_i hmarkup
  rw [if_neg hmarkup] at h
  exact hp.escapeAroundMath h

/-! ## Phrases -/

mutual

/-- A phrase has the property if what is kept of it is as asked. -/
theorem render :
    ∀ phrase : Phrase, (∀ construct ∈ phrase.constructs, q construct) → p phrase.render.text
  | .run _, h => by
    rw [Phrase.constructs] at h
    rw [Phrase.render]
    exact hp.renderRun h
  | .leaf _, h => by
    rw [Phrase.constructs] at h
    rw [Phrase.render]
    exact hp.renderLeaf h
  | .marked opener _ inner, h => by
    rw [Phrase.constructs, List.forall_mem_append] at h
    rw [Phrase.render]
    exact hp.decorate opener (renderPhrases inner h.2)
  | .unclosed _, _ => by
    rw [Phrase.render]
    exact hp.nil
  | .unmatched _, _ => by
    rw [Phrase.render]
    exact hp.nil

/-- Phrases have the property if what is kept of them is as asked. -/
theorem renderPhrases :
    ∀ phrases : List Phrase, (∀ construct ∈ constructsOfPhrases phrases, q construct) →
      p (renderPhrases phrases).text
  | [], _ => by
    rw [Body.renderPhrases]
    exact hp.nil
  | phrase :: phrases, h => by
    rw [constructsOfPhrases, List.forall_mem_append] at h
    rw [Body.renderPhrases, Fragment.text_append]
    exact hp.append (render phrase h.1) (renderPhrases phrases h.2)

end

/-- Running text is put together from its pieces. -/
theorem renderInlines {children : List Token}
    (h : ∀ construct ∈ constructsOfInlines children, q construct) :
    p (renderInlines children).text := by
  rw [renderInlines_eq]
  exact hp.renderPhrases _ h

end KeptByMarkup

/-! ## Cells of a table -/

/-- The cells of a table that is laid out are emitted, and their constructs are the table's. -/
theorem renderTable_cases (options : Table.Options) (tokens : List Token) :
    ((∃ cause, Table.layout options ((rowsFrom [] tokens).map emittedCells)
        ((rowsFrom [] tokens).map measuredCells) (alignmentsFrom false tokens) = .error cause) ∧
      (renderTable options tokens).text = []) ∨
    ∃ table, Table.layout options ((rowsFrom [] tokens).map emittedCells)
        ((rowsFrom [] tokens).map measuredCells) (alignmentsFrom false tokens) = .ok table ∧
      (renderTable options tokens).text = table.code ∧
      ∀ row ∈ rowsFrom [] tokens, ∀ children ∈ row,
        constructsOfInlines children ⊆ constructsOfTable options tokens := by
  rw [renderTable]
  simp only [constructsOfTable, collectCells_eq]
  cases Table.layout options ((rowsFrom [] tokens).map emittedCells)
      ((rowsFrom [] tokens).map measuredCells) (alignmentsFrom false tokens) with
  | error cause => exact .inl ⟨⟨cause, rfl⟩, rfl⟩
  | ok table =>
    refine .inr ⟨table, rfl, rfl, fun row hrow children hchildren construct hconstruct => ?_⟩
    -- the constructs of a table are its own and those of its cells
    refine List.mem_append_right _ (List.mem_flatMap.2 ⟨children, ?_, hconstruct⟩)
    exact List.mem_flatten_of_mem hrow hchildren

end MarkTex.Body
