import MarkTex.Proofs.Body.Forest
import MarkTex.Proofs.Text.Lines

/-!
# Paragraphs in one container

Blocks stand side by side in the document itself, in a quotation or in an item of a list
(`Container`). Two paragraphs that come after each other in one of them are set apart by what that
container puts between its blocks, and nothing around the container can change it
(`exists_text_paragraphs`). In a document and in a quotation this is a blank line. In an item it is
a single line end, so paragraphs of an item run into one (`not_blankLine_item`).

## Shape of the proof

A text is wrapped if something is put around it that does not depend on it (`Wraps`); wrapping what
is wrapped is wrapping again. What a container joins is wrapped by each environment around it, and
by each join that has it in the middle, so it stays in one piece in the document (`wraps_fill`, by
induction from the container outwards).
-/

namespace MarkTex.Body

open Markdown (Block Item flattenBlocks)

/-! ## Containers -/

/-- A place for blocks in a tree, with all that stands around it. -/
inductive Container where
  /-- The document itself. -/
  | document
  /-- A quotation between other blocks of its own container. -/
  | quote (before after : List (Block Running)) (outer : Container)
  /-- An item between the other items of a list, which stands between other blocks of its own
  container. -/
  | item (start : Option Nat) (itemsBefore : List (Item Running)) (number : Text)
      (itemsAfter : List (Item Running)) (before after : List (Block Running)) (outer : Container)

namespace Container

/-- The document with the blocks put in the container. -/
def fill : Container → List (Block Running) → List (Block Running)
  | .document, blocks => blocks
  | .quote before after outer, blocks => outer.fill (before ++ .quote blocks :: after)
  | .item start itemsBefore number itemsAfter before after outer, blocks =>
    outer.fill (before ++ .list start (itemsBefore ++ .mk number blocks :: itemsAfter) :: after)

/-- What the container puts between its blocks. -/
def separator : Container → Text
  | .document => ['\n', '\n']
  | .quote _ _ _ => ['\n', '\n']
  | .item _ _ _ _ _ _ _ => ['\n']

end Container

/-! ## Texts with something around them -/

/-- Where the inner text is not empty, the outer one is the inner one with something around it that
does not depend on it. -/
def Wraps {α : Type} (inner outer : α → Text) : Prop :=
  ∃ front back, ∀ a, inner a ≠ [] → outer a = front ++ inner a ++ back

namespace Wraps

variable {α β : Type} {inner middle outer : α → Text}

theorem refl (inner : α → Text) : Wraps inner inner :=
  ⟨[], [], fun a _ => (List.append_nil (inner a)).symm⟩

theorem trans (h : Wraps inner middle) (h' : Wraps middle outer) : Wraps inner outer := by
  obtain ⟨front, back, hinner⟩ := h
  obtain ⟨first, last, houter⟩ := h'
  refine ⟨first ++ front, back ++ last, fun a ha => ?_⟩
  have hmiddle : middle a ≠ [] := by simp [hinner a ha, ha]
  rw [houter a hmiddle, hinner a ha]
  simp only [List.append_assoc]

/-- What wraps a text wraps it wherever it comes from. -/
theorem comp (h : Wraps inner outer) (f : β → α) :
    Wraps (fun b => inner (f b)) (fun b => outer (f b)) := by
  obtain ⟨front, back, houter⟩ := h
  exact ⟨front, back, fun b => houter (f b)⟩

end Wraps

/-- A part in the middle of a join. -/
theorem wraps_intercalate (separator : Text) (parts others : List Text) :
    Wraps id fun part => List.intercalate separator (parts ++ part :: others) :=
  ⟨_, _, fun part _ => Text.intercalate_append_cons separator parts part others⟩

/-- A line of an environment. -/
theorem wraps_environmentLines (name : String) (lines others : List Text) :
    Wraps id fun line => environmentLines name (lines ++ line :: others) := by
  have hwraps := wraps_intercalate ['\n'] (Tex.opening name :: lines) (others ++ [Tex.closing name])
  simpa [environmentLines] using hwraps

/-! ## What stands around a container -/

variable (options : Table.Options)

/-- The texts of blocks that have one, joined. -/
def joined (separator : Text) (blocks : List (Block Running)) : Text :=
  List.intercalate separator (Fragment.texts (setBlocks options blocks))

/-- A block is wrapped by the blocks before and after it in its container. -/
theorem wraps_joined (separator : Text) (before after : List (Block Running)) :
    Wraps (fun block => (setBlock options block).text) fun block =>
      joined options separator (before ++ block :: after) := by
  obtain ⟨front, back, hjoin⟩ := wraps_intercalate separator
    (Fragment.texts (setBlocks options before)) (Fragment.texts (setBlocks options after))
  refine ⟨front, back, fun block hblock => ?_⟩
  show joined options separator (before ++ block :: after) = _
  rw [joined, setBlocks_eq_map, List.map_append, List.map_cons, Fragment.texts_append,
    Fragment.texts_cons hblock, ← setBlocks_eq_map, ← setBlocks_eq_map]
  exact hjoin _ hblock

/-- The blocks of a quote are wrapped by its environment. -/
theorem wraps_quote :
    Wraps (joined options ['\n', '\n']) fun blocks => (setBlock options (.quote blocks)).text := by
  obtain ⟨front, back, hlines⟩ := wraps_environmentLines "quote" [] []
  refine ⟨front, back, fun blocks hblocks => ?_⟩
  show (setBlock options (.quote blocks)).text = _
  have htext : (setBlock options (.quote blocks)).text =
      environmentLines "quote"
        (if (joined options ['\n', '\n'] blocks).isEmpty then []
          else [joined options ['\n', '\n'] blocks]) := by
    rw [setBlock]
    rfl
  rw [htext, if_neg (by simpa using hblocks)]
  exact hlines _ hblocks

/-- The blocks of an item are wrapped by its command. -/
theorem wraps_item (number : Text) :
    Wraps (joined options ['\n']) fun blocks => (setItem options (.mk number blocks)).text := by
  refine ⟨"\\item ".toList, [], fun blocks hblocks => ?_⟩
  show (setItem options (.mk number blocks)).text = _
  have htext : (setItem options (.mk number blocks)).text =
      if (joined options ['\n'] blocks).isEmpty then "\\item".toList
      else "\\item ".toList ++ joined options ['\n'] blocks := by
    rw [setItem]
    rfl
  rw [htext, if_neg (by simpa using hblocks), List.append_nil]

/-- An item is wrapped by the other items and the environment of its list. -/
theorem wraps_list (start : Option Nat) (itemsBefore itemsAfter : List (Item Running)) :
    Wraps (fun item => (setItem options item).text) fun item =>
      (setBlock options (.list start (itemsBefore ++ item :: itemsAfter))).text := by
  obtain ⟨front, back, hlines⟩ :=
    wraps_environmentLines (if start.isSome then "enumerate" else "itemize")
      (itemsBefore.map fun item => (setItem options item).text)
      (itemsAfter.map fun item => (setItem options item).text)
  refine ⟨front, back, fun item hitem => ?_⟩
  show (setBlock options (.list start (itemsBefore ++ item :: itemsAfter))).text = _
  rw [setBlock]
  simp only [setItems_eq_map, List.map_append, List.map_cons, List.map_map]
  exact hlines _ hitem

/-- **What is put in a container stays in one piece in the document**, and what is around it does
not depend on it. -/
theorem wraps_fill (container : Container) :
    Wraps (joined options container.separator) fun blocks =>
      (setBody options (container.fill blocks)).text := by
  -- from the container outwards: its blocks are in a block of the next one
  induction container with
  | document => exact Wraps.refl _
  | quote before after outer ih =>
    have hblock := (wraps_joined options outer.separator before after).trans (ih.comp _)
    exact (wraps_quote options).trans (hblock.comp fun blocks => .quote blocks)
  | item start itemsBefore number itemsAfter before after outer ih =>
    have hblock := (wraps_joined options outer.separator before after).trans (ih.comp _)
    have hitem := (wraps_list options start itemsBefore itemsAfter).trans
      (hblock.comp fun item => .list start (itemsBefore ++ item :: itemsAfter))
    exact (wraps_item options number).trans (hitem.comp fun blocks => .mk number blocks)

/-! ## Two paragraphs -/

/-- A forest is emitted as it is set. -/
theorem text_render_flatten (forest : List (Block Running)) :
    (render options (flattenBlocks Running.token forest)).text = (setBody options forest).text := by
  have hblocks := renderBlocks_flatten options forest []
  rw [List.append_nil] at hblocks
  rw [render, hblocks]
  rfl

/-- Blocks without a text leave no trace between two paragraphs. -/
theorem joined_paragraphs (separator : Text) (before after : List (Block Running))
    {between : List (Block Running)} (h : ∀ block ∈ between, (setBlock options block).text = [])
    {p q : Running} (hp : (renderInlines p.children).text ≠ [])
    (hq : (renderInlines q.children).text ≠ []) :
    joined options separator (before ++ .paragraph p :: (between ++ .paragraph q :: after)) =
      (Fragment.texts (setBlocks options before)).flatMap (· ++ separator) ++
        ((renderInlines p.children).text ++ separator ++ (renderInlines q.children).text) ++
        (Fragment.texts (setBlocks options after)).flatMap (separator ++ ·) := by
  have hbetween : Fragment.texts (between.map (setBlock options)) = [] := by
    apply Fragment.texts_eq_nil
    rwa [List.forall_mem_map]
  rw [joined, setBlocks_eq_map, setBlocks_eq_map, setBlocks_eq_map]
  simp only [List.map_append, List.map_cons, Fragment.texts_append]
  -- both paragraphs are there to be joined, and what is between them is empty and left out
  rw [Fragment.texts_cons (by rwa [setBlock]), Fragment.texts_append, hbetween, List.nil_append,
    Fragment.texts_cons (by rwa [setBlock]), Text.intercalate_append_cons, List.flatMap_cons,
    setBlock, setBlock]
  simp only [List.append_assoc]

/-- **Two paragraphs of one container are set apart by what the container puts between its blocks**:
by a blank line in the document and in a quotation, by a single line end in an item. Blocks that
have no text may stand between them. What is around the two, at any depth, is the same whatever they
say. -/
theorem exists_text_paragraphs (container : Container) (before between after : List (Block Running))
    (h : ∀ block ∈ between, (setBlock options block).text = []) :
    ∃ front back, ∀ p q : Running, (renderInlines p.children).text ≠ [] →
      (renderInlines q.children).text ≠ [] →
      (render options (flattenBlocks Running.token (container.fill
          (before ++ .paragraph p :: (between ++ .paragraph q :: after))))).text =
        front ++
          ((renderInlines p.children).text ++ container.separator ++
            (renderInlines q.children).text) ++
          back := by
  obtain ⟨front, back, hfill⟩ := wraps_fill options container
  -- what the container joins in front of the paragraphs and behind them does not depend on them
  -- either
  refine ⟨front ++ (Fragment.texts (setBlocks options before)).flatMap (· ++ container.separator),
    (Fragment.texts (setBlocks options after)).flatMap (container.separator ++ ·) ++ back,
    fun p q hp hq => ?_⟩
  have hjoined := joined_paragraphs options container.separator before after h hp hq
  replace hfill := hfill (before ++ .paragraph p :: (between ++ .paragraph q :: after))
    (by simp [hjoined, hp])
  rw [hjoined] at hfill
  rw [text_render_flatten]
  simpa only [List.append_assoc] using hfill

/-- A running text of one letter. -/
def letter (c : Char) : Running where
  content := [c]
  children := [{ kind := "text", content := [c] }]

/-- A paragraph of one letter is that letter. -/
theorem text_letters :
    (renderInlines (letter 'a').children).text = ['a'] ∧
      (renderInlines (letter 'b').children).text = ['b'] := by
  decide +kernel

/-- A quotation in an item of a list in the document. -/
def quoteInItem : Container :=
  .quote [] [] (.item none [] [] [] [] [] .document)

/-- Two paragraphs of a quote in an item, with markup between them: a blank line sets them apart. -/
theorem exists_text_paragraphs_quoteInItem :
    (∀ block ∈ [Block.markup "<hr>".toList], (setBlock {} block).text = []) ∧
      ∃ front back,
        (render {} (flattenBlocks Running.token (quoteInItem.fill
            [.paragraph (letter 'a'), .markup "<hr>".toList, .paragraph (letter 'b')]))).text =
          front ++ ['a', '\n', '\n', 'b'] ++ back := by
  have hmarkup : ∀ block ∈ [Block.markup "<hr>".toList], (setBlock {} block).text = [] := by
    intro block hblock
    rw [List.mem_singleton] at hblock
    rw [hblock, setBlock]
    rfl
  obtain ⟨ha, hb⟩ := text_letters
  obtain ⟨front, back, htext⟩ := exists_text_paragraphs {} quoteInItem [] _ [] hmarkup
  refine ⟨hmarkup, front, back, ?_⟩
  replace htext := htext (letter 'a') (letter 'b') (by simp [ha]) (by simp [hb])
  rw [ha, hb] at htext
  exact htext

/-- An item of two paragraphs. -/
def twoParagraphs : List (Block Running) :=
  [.list none [.mk [] [.paragraph (letter 'a'), .paragraph (letter 'b')]]]

/-- No blank line is between the paragraphs of an item. -/
theorem not_blankLine_item :
    (render {} (flattenBlocks Running.token twoParagraphs)).text =
        "\\begin{itemize}\n\\item a\nb\n\\end{itemize}".toList ∧
      ¬ ['\n', '\n'] <:+: (render {} (flattenBlocks Running.token twoParagraphs)).text := by
  have htext : (render {} (flattenBlocks Running.token twoParagraphs)).text =
      "\\begin{itemize}\n\\item a\nb\n\\end{itemize}".toList := by
    obtain ⟨ha, hb⟩ := text_letters
    rw [text_render_flatten]
    simp [setBody, twoParagraphs, setBlocks, setBlock, setItems, setItem, ha, hb, List.intercalate,
      environmentLines]
    rfl
  -- no two line ends come after each other in this text
  refine ⟨htext, ?_⟩
  rw [htext]
  simp [List.infix_cons_iff]

end MarkTex.Body
