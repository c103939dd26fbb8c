import MarkTex.Proofs.Body.Block
import MarkTex.Proofs.Body.Cells
import MarkTex.Proofs.Body.Phrase
import MarkTex.Proofs.Table.Columns

/-!
# Bodies without faults

Running text has no fault, and a table has none since it can always be laid out. So a body has a
fault only if the level of a heading cannot be read (`fault_render`).
-/

namespace MarkTex.Body

open Markdown (Token)

/-! ## Headings -/

/-- The tag of a heading whose level is one digit. -/
def IsHeadingTag (tag : String) : Prop :=
  ∃ level < 10, tag = "h" ++ toString level

/-- Every heading among the tokens has a tag whose level is one digit. -/
def ReadableHeadings (tokens : List Token) : Prop :=
  ∀ t ∈ tokens, t.kind = "heading_open" → IsHeadingTag t.tag

/-- Behind some tokens the headings can be read as well. -/
theorem ReadableHeadings.drop {tokens : List Token} (h : ReadableHeadings tokens) (n : Nat) :
    ReadableHeadings (tokens.drop n) :=
  fun t ht => h t (List.mem_of_mem_drop ht)

/-- The level in the tag of a heading can be read. -/
theorem headingLevel_of_isHeadingTag {tag : String} (h : IsHeadingTag tag) :
    ∃ level, headingLevel tag = .ok level := by
  have hlevels : ∀ level < 10,
      headingLevel ("h" ++ toString level) = .ok ((level : Nat) : Int) := by
    decide +kernel
  obtain ⟨level, hlevel, rfl⟩ := h
  exact ⟨level, hlevels level hlevel⟩

/-- A heading has no fault if its level can be read and its text has none. -/
theorem fault_renderHeading {tag : String} (h : IsHeadingTag tag) {inner : Fragment}
    (hinner : inner.fault = none) : (renderHeading tag inner).fault = none := by
  obtain ⟨level, hlevel⟩ := headingLevel_of_isHeadingTag h
  rw [renderHeading, hlevel]
  exact hinner

/-! ## Fragments put together -/

namespace Fragment

/-- Fragments without faults have none together. -/
theorem fault_append_eq_none {a b : Fragment} (ha : a.fault = none) (hb : b.fault = none) :
    (a ++ b).fault = none := by
  rw [fault_append, ha, hb]
  rfl

/-- Nor has a whole list of them. -/
theorem fault_concat {l : List Fragment} (h : ∀ a ∈ l, a.fault = none) :
    (concat l).fault = none := by
  induction l with
  | nil => rfl
  | cons a l ih =>
    rw [List.forall_mem_cons] at h
    exact fault_append_eq_none h.1 (ih h.2)

end Fragment

/-! ## Running text -/

/-- A marker brings no fault. -/
theorem fault_decorate (opener : Token) {inner : Fragment} (h : inner.fault = none) :
    (decorate opener inner).fault = none := by
  rw [decorate]
  split
  · exact h
  split
  · exact h
  split
  · exact Fragment.fault_append_eq_none h rfl
  · exact Fragment.fault_append_eq_none h rfl

/-- A leaf has no fault. -/
theorem fault_renderLeaf (child : Token) : (renderLeaf child).fault = none := by
  rw [renderLeaf]
  split
  · rfl
  split
  · rfl
  split <;> rfl

mutual

/-- A phrase has no fault, however its markers are crossed. -/
theorem fault_phrase : ∀ phrase : Phrase, phrase.render.fault = none
  | .run _ => by
    rw [Phrase.render]
    rfl
  | .leaf child => by
    rw [Phrase.render]
    exact fault_renderLeaf child
  | .marked opener _ inner => by
    rw [Phrase.render]
    exact fault_decorate opener (fault_renderPhrases inner)
  | .unclosed _ => by rw [Phrase.render]
  | .unmatched _ => by
    rw [Phrase.render]
    rfl

/-- Phrases one after the other have no fault. -/
theorem fault_renderPhrases : ∀ phrases : List Phrase, (renderPhrases phrases).fault = none
  | [] => by rw [renderPhrases]
  | phrase :: phrases => by
    rw [renderPhrases]
    exact Fragment.fault_append_eq_none (fault_phrase phrase) (fault_renderPhrases phrases)

end

/-- Running text has no fault. -/
theorem fault_renderInlines (children : List Token) : (renderInlines children).fault = none := by
  rw [renderInlines_eq]
  exact fault_renderPhrases _

/-- The running text behind a token has no fault, whether there is one or not. -/
theorem fault_renderNextInline (rest : List Token) : (renderNextInline rest).fault = none := by
  rw [renderNextInline_eq]
  exact fault_renderInlines _

/-- No cell of a table has a fault, kept or not. -/
theorem fault_collectCells (tokens : List Token) : (collectCells tokens).2.fault = none := by
  rw [collectCells_eq]
  refine Fragment.fault_concat fun cell hcell => ?_
  obtain ⟨children, -, rfl⟩ := List.mem_map.1 hcell
  exact fault_renderInlines children

/-! ## Blocks -/

/-- A table has no fault, for every table can be laid out. -/
theorem fault_renderTable (options : Table.Options) (tokens : List Token) :
    (renderTable options tokens).fault = none := by
  obtain ⟨table, hlayout⟩ := Table.exists_layout_eq_ok options (collectCells tokens).1.rows
    (collectCells tokens).1.plainRows (collectCells tokens).1.alignments
  have hneeds := fault_collectCells tokens
  rw [renderTable]
  simp only [hlayout]
  exact Fragment.fault_append_eq_none (Fragment.fault_append_eq_none rfl hneeds) rfl

/-- A list has no fault if its items have none. -/
theorem fault_renderList (environment : String) {items : List Fragment}
    (h : ∀ item ∈ items, item.fault = none) : (renderList environment items).fault = none := by
  rw [renderList_eq]
  exact Fragment.fault_concat h

section

variable (options : Table.Options)

mutual

/-- Blocks have no faults if all headings among their tokens can be read. -/
theorem fault_renderBlocks (count : Nat) (tokens : List Token) (h : ReadableHeadings tokens) :
    ∀ fragment ∈ renderBlocks options count tokens, fragment.fault = none := by
  match tokens, count with
  | [], count =>
    rw [renderBlocks]
    exact fun _ hmem => absurd hmem List.not_mem_nil
  | t :: rest, 0 =>
    rw [renderBlocks]
    exact fun _ hmem => absurd hmem List.not_mem_nil
  | t :: rest, count + 1 =>
    obtain ⟨hfirst, hrest⟩ := List.forall_mem_cons.1 h
    rw [renderBlocks, List.forall_mem_cons]
    exact ⟨fault_renderBlock t rest hfirst hrest,
      fault_renderBlocks _ _ (ReadableHeadings.drop hrest _)⟩
termination_by (tokens.length, 1)
decreasing_by
  · simp_wf; exact Prod.Lex.right _ Nat.zero_lt_one
  · simp_wf; exact Prod.Lex.left _ _ (by omega)

/-- A block has no fault if it is no heading that cannot be read, and no such heading is behind its
first token. -/
theorem fault_renderBlock (t : Token) (rest : List Token)
    (h : t.kind = "heading_open" → IsHeadingTag t.tag) (hrest : ReadableHeadings rest) :
    (renderBlock options t rest).1.fault = none := by
  rw [renderBlock]
  split
  · exact fault_renderHeading (h ‹_›) (fault_renderNextInline rest)
  split
  · exact fault_renderNextInline rest
  split
  · exact fault_renderList _ (fault_renderItems _ rest hrest)
  split
  · exact Fragment.fault_concat (fault_renderBlocks _ rest hrest)
  split
  · rfl
  split
  · rfl
  split
  · exact fault_renderTable options _
  split <;> rfl
termination_by (rest.length + 1, 0)
decreasing_by all_goals exact Prod.Lex.left _ _ (by omega)

/-- Items have no faults if all headings among their tokens can be read. -/
theorem fault_renderItems (count : Nat) (tokens : List Token) (h : ReadableHeadings tokens) :
    ∀ item ∈ renderItems options count tokens, item.fault = none := by
  match tokens, count with
  | [], count =>
    rw [renderItems]
    exact fun _ hmem => absurd hmem List.not_mem_nil
  | t :: rest, 0 =>
    rw [renderItems]
    exact fun _ hmem => absurd hmem List.not_mem_nil
  | t :: rest, count + 1 =>
    have hrest : ReadableHeadings rest := (List.forall_mem_cons.1 h).2
    rw [renderItems]
    split
    · rw [List.forall_mem_cons]
      exact ⟨Fragment.fault_concat (fault_renderBlocks _ rest hrest),
        fault_renderItems _ _ (hrest.drop _)⟩
    · exact fault_renderItems _ rest hrest
termination_by (tokens.length, 1)
decreasing_by all_goals (simp_wf; exact Prod.Lex.left _ _ (by omega))

end

/-- A body has no fault if the levels of its headings can be read. -/
theorem fault_render {tokens : List Token} (h : ReadableHeadings tokens) :
    (render options tokens).fault = none :=
  Fragment.fault_concat (fault_renderBlocks options tokens.length tokens h)

end

end MarkTex.Body
