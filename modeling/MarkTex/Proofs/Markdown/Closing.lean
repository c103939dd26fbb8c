import MarkTex.Markdown.Tree

/-!
# Closing tokens of trees laid flat

The closing token of a block is found by counting tokens of two kinds. The tokens of a whole tree
leave the count as it was, whichever kinds are counted, since each opening token in them has its
closing token (`passes_flatten`). So the token that closes a block laid flat is the last one of its
tokens, whatever stands behind it (`lengthOf_enclose`).
-/

namespace MarkTex.Markdown

variable {openKind closeKind : String}

/-- Counting passes over the tokens: it is as deep behind them as in front of them, and finds no end
among them. -/
def Passes (openKind closeKind : String) (inner : List Token) : Prop :=
  ∀ depth rest,
    tokensToClose openKind closeKind (depth + 1) (inner ++ rest) =
      inner.length + tokensToClose openKind closeKind (depth + 1) rest

namespace Passes

theorem nil : Passes openKind closeKind [] := by
  intro depth rest
  simp

theorem append {a b : List Token} (ha : Passes openKind closeKind a)
    (hb : Passes openKind closeKind b) : Passes openKind closeKind (a ++ b) := by
  intro depth rest
  rw [List.append_assoc, ha, hb, List.length_append, Nat.add_assoc]

/-- A token of neither kind is passed over. -/
theorem single {t : Token} (ho : t.kind ≠ openKind) (hc : t.kind ≠ closeKind) :
    Passes openKind closeKind [t] := by
  intro depth rest
  simp only [List.singleton_append, tokensToClose, if_neg ho, if_neg hc, List.length_singleton]
  omega

/-- An opening and a closing token that belong together are passed over with what is between
them. -/
theorem enclose_same {opener closer : Token} {inner : List Token}
    (ho : opener.kind = openKind) (hc : closer.kind = closeKind) (hne : closeKind ≠ openKind)
    (h : Passes openKind closeKind inner) :
    Passes openKind closeKind (enclose opener inner closer) := by
  intro depth rest
  have hclose : tokensToClose openKind closeKind (depth + 1 + 1) (closer :: rest) =
      tokensToClose openKind closeKind (depth + 1) rest + 1 := by
    rw [tokensToClose, if_neg (by rw [hc]; exact hne), if_pos hc, if_neg (by omega),
      Nat.add_sub_cancel]
  rw [enclose, List.cons_append, List.cons_append, tokensToClose, if_pos ho, List.append_assoc,
    List.singleton_append, h, hclose]
  simp only [List.length_append, List.length_cons, List.length_nil]
  omega

/-- Tokens of other kinds around what is passed over are passed over too. -/
theorem enclose_other {opener closer : Token} {inner : List Token}
    (ho : opener.kind ≠ openKind ∧ opener.kind ≠ closeKind)
    (hc : closer.kind ≠ openKind ∧ closer.kind ≠ closeKind)
    (h : Passes openKind closeKind inner) :
    Passes openKind closeKind (enclose opener inner closer) := by
  have hopener : Passes openKind closeKind [opener] := single ho.1 ho.2
  have hcloser : Passes openKind closeKind [closer] := single hc.1 hc.2
  exact (hopener.append h).append hcloser

end Passes

/-! ## Kinds in pairs

In the tokens of a tree, the kinds of opening and closing tokens are made from one name. Whatever
name is counted for, a pair of tokens of any name leaves the count as it was.
-/

/-- What closes a kind ending in `_open` has the same name. -/
theorem closingKind_open (name : String) : closingKind (name ++ "_open") = name ++ "_close" := by
  have hlength : (name ++ "_open").length - 5 = name.toList.length := by
    rw [String.length_append, String.length_toList, show "_open".length = 5 from rfl,
      Nat.add_sub_cancel]
  rw [closingKind, hlength, String.toList_append, List.take_left, String.ofList_toList]

/-- No kind that ends as opening ones do is one that ends as closing ones do. -/
theorem open_ne_close (name other : String) : name ++ "_open" ≠ other ++ "_close" := by
  intro h
  have hlast := congrArg (fun s => s.toList.reverse.head?) h
  simp at hlast

section

variable {name : String}

/-- A token that neither opens nor closes anything is passed over. -/
theorem passes_single {t : Token} (ho : ¬ "_open".toList <:+ t.kind.toList)
    (hc : ¬ "_close".toList <:+ t.kind.toList) :
    Passes (name ++ "_open") (name ++ "_close") [t] := by
  refine Passes.single ?_ ?_
  · intro h
    exact ho (by rw [h, String.toList_append]; exact List.suffix_append _ _)
  · intro h
    exact hc (by rw [h, String.toList_append]; exact List.suffix_append _ _)

/-- A pair of tokens is passed over if what it encloses is, whether its name is the one that is
counted for or another. -/
theorem passes_enclose (other : String) {opener closer : Token} {inner : List Token}
    (ho : opener.kind = other ++ "_open") (hc : closer.kind = other ++ "_close")
    (h : Passes (name ++ "_open") (name ++ "_close") inner) :
    Passes (name ++ "_open") (name ++ "_close") (enclose opener inner closer) := by
  -- tokens of the counted kinds add one and take it away again, any others are passed over
  by_cases he : other = name
  · subst he
    exact h.enclose_same ho hc (open_ne_close other other).symm
  · refine h.enclose_other ⟨?_, ?_⟩ ⟨?_, ?_⟩
    · rw [ho]
      exact fun heq => he ((String.append_left_inj _).1 heq)
    · rw [ho]
      exact open_ne_close other name
    · rw [hc]
      exact (open_ne_close name other).symm
    · rw [hc]
      exact fun heq => he ((String.append_left_inj _).1 heq)

/-- The token that closes a pair stands behind what the pair encloses. -/
theorem lengthOf_enclose {opener closer : Token} {inner : List Token} (rest : List Token)
    (ho : opener.kind = name ++ "_open") (hc : closer.kind = name ++ "_close")
    (h : Passes (name ++ "_open") (name ++ "_close") inner) :
    lengthOf opener (inner ++ closer :: rest) = inner.length := by
  have hclose : tokensToClose (name ++ "_open") (name ++ "_close") 1 (closer :: rest) = 0 := by
    rw [tokensToClose, if_neg (by rw [hc]; exact (open_ne_close name name).symm), if_pos hc,
      if_pos (Nat.le_refl 1)]
  rw [lengthOf, ho, closingKind_open, h 0, hclose, Nat.add_zero]

/-! ## The tokens of trees -/

variable {α : Type} {inline : α → Token} (hinline : ∀ text, (inline text).kind = "inline")

include hinline

/-- Running text leaves the count. -/
theorem passes_inline (text : α) : Passes (name ++ "_open") (name ++ "_close") [inline text] := by
  refine passes_single ?_ ?_ <;> rw [hinline] <;> decide

/-- The cells of a row leave the count. -/
theorem passes_flattenCells (tag : String) (alignments : List (Option Table.Alignment))
    (row : List α) :
    Passes (name ++ "_open") (name ++ "_close") (flattenCells inline tag alignments row) := by
  fun_induction flattenCells inline tag alignments row with
  | case1 => exact .nil
  | case2 text texts ih =>
    exact (passes_enclose tag rfl rfl (passes_inline hinline text)).append ih
  | case3 alignment alignments text texts ih =>
    exact (passes_enclose tag rfl rfl (passes_inline hinline text)).append ih

/-- A row leaves the count. -/
theorem passes_flattenRow (tag : String) (alignments : List (Option Table.Alignment))
    (row : List α) :
    Passes (name ++ "_open") (name ++ "_close") (flattenRow inline tag alignments row) :=
  passes_enclose "tr" rfl rfl (passes_flattenCells hinline tag alignments row)

/-- The rows of a table leave the count. -/
theorem passes_flattenRows (alignments : List (Option Table.Alignment)) (rows : List (List α)) :
    Passes (name ++ "_open") (name ++ "_close") (flattenRows inline alignments rows) := by
  have hrows : Passes (name ++ "_open") (name ++ "_close")
      (rows.flatMap (flattenRow inline "td" alignments)) := by
    induction rows with
    | nil => exact .nil
    | cons row rows ih =>
      rw [List.flatMap_cons]
      exact (passes_flattenRow hinline "td" alignments row).append ih
  rw [flattenRows]
  split
  · exact .nil
  · exact passes_enclose "tbody" rfl rfl hrows

/-- The tokens of a table between its opening and its closing token. -/
theorem passes_tableTokens (alignments : List (Option Table.Alignment)) (header : List α)
    (rows : List (List α)) :
    Passes (name ++ "_open") (name ++ "_close")
      (enclose (tagToken "thead_open" "thead") (flattenRow inline "th" alignments header)
        (tagToken "thead_close" "thead") ++ flattenRows inline alignments rows) :=
  (passes_enclose "thead" rfl rfl (passes_flattenRow hinline "th" alignments header)).append
    (passes_flattenRows hinline alignments rows)

end

mutual

/-- Counting passes over the tokens of a block. -/
theorem passes_flatten {α : Type} {inline : α → Token}
    (hinline : ∀ text, (inline text).kind = "inline") (name : String) :
    ∀ block : Block α, Passes (name ++ "_open") (name ++ "_close") (block.flatten inline)
  | .heading _ text => passes_enclose "heading" rfl rfl (passes_inline hinline text)
  | .paragraph text => passes_enclose "paragraph" rfl rfl (passes_inline hinline text)
  | .list none items =>
    passes_enclose "bullet_list" rfl rfl (passes_flattenItems hinline name items)
  | .list (some _) items =>
    passes_enclose "ordered_list" rfl rfl (passes_flattenItems hinline name items)
  | .quote blocks => passes_enclose "blockquote" rfl rfl (passes_flattenBlocks hinline name blocks)
  | .fence _ _ => passes_single (by simp only; decide) (by simp only; decide)
  | .code _ => passes_single (by simp only; decide) (by simp only; decide)
  | .rule => passes_single (by decide) (by decide)
  | .markup _ => passes_single (by simp only; decide) (by simp only; decide)
  | .table alignments header rows =>
    passes_enclose "table" rfl rfl (passes_tableTokens hinline alignments header rows)

/-- Counting passes over the tokens of an item. -/
theorem passes_flattenItem {α : Type} {inline : α → Token}
    (hinline : ∀ text, (inline text).kind = "inline") (name : String) :
    ∀ item : Item α, Passes (name ++ "_open") (name ++ "_close") (item.flatten inline)
  | .mk _ blocks => passes_enclose "list_item" rfl rfl (passes_flattenBlocks hinline name blocks)

/-- Counting passes over the tokens of blocks. -/
theorem passes_flattenBlocks {α : Type} {inline : α → Token}
    (hinline : ∀ text, (inline text).kind = "inline") (name : String) :
    ∀ blocks : List (Block α),
      Passes (name ++ "_open") (name ++ "_close") (flattenBlocks inline blocks)
  | [] => .nil
  | block :: blocks =>
    (passes_flatten hinline name block).append (passes_flattenBlocks hinline name blocks)

/-- Counting passes over the tokens of items. -/
theorem passes_flattenItems {α : Type} {inline : α → Token}
    (hinline : ∀ text, (inline text).kind = "inline") (name : String) :
    ∀ items : List (Item α),
      Passes (name ++ "_open") (name ++ "_close") (flattenItems inline items)
  | [] => .nil
  | item :: items =>
    (passes_flattenItem hinline name item).append (passes_flattenItems hinline name items)

end

end MarkTex.Markdown
