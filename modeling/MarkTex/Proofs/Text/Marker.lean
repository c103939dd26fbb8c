import MarkTex.Text.Marker

/-!
# What stripping leaves

Each rule that strips markers only takes characters out. So whatever the markers are, closed or not
and inside of one another or not, the rules together leave a subsequence of the text
(`stripMarkers_sublist`), which takes no more cells, and none of the later rules brings back what an
earlier one took out. A text in which no rule finds what it starts with stays as it is
(`stripMarkers_of_unmarked`).
-/

namespace MarkTex.Text

/-! ## What the rules find -/

section

variable {mark t body label after : Text}

theorem cutOnLine_eq_some (h : cutOnLine mark t = some (body, after)) :
    t = body ++ (mark ++ after) := by
  induction t generalizing body with
  | nil => cases h
  | cons c r ih =>
    rw [cutOnLine] at h
    split at h
    · rename_i hmark
      obtain ⟨rfl, rfl⟩ := Prod.mk.inj (Option.some.inj h)
      exact (List.prefix_iff_eq_append.1 (List.isPrefixOf_iff_prefix.1 hmark)).symm
    -- the mark is searched on this line only
    split at h
    · cases h
    · obtain ⟨⟨before, rest⟩, hcut, heq⟩ := Option.map_eq_some_iff.1 h
      obtain ⟨rfl, rfl⟩ := Prod.mk.inj heq
      rw [ih hcut]
      rfl

/-- A stretch between two marks starts the text. -/
theorem enclosed?_eq_some (h : enclosed? mark t = some (body, after)) :
    t = mark ++ (body ++ (mark ++ after)) := by
  rw [enclosed?] at h
  split at h
  · rename_i hmark
    have hopen := List.prefix_iff_eq_append.1 (List.isPrefixOf_iff_prefix.1 hmark)
    split at h
    · cases h
    · rename_i c r hrest
      -- something has to stand between the marks, and on the same line
      split at h
      · cases h
      · obtain ⟨⟨before, rest⟩, hcut, heq⟩ := Option.map_eq_some_iff.1 h
        obtain ⟨rfl, rfl⟩ := Prod.mk.inj heq
        rw [← hopen, hrest, cutOnLine_eq_some hcut]
        rfl
  · cases h

/-- A link starts the text. -/
theorem link?_eq_some (h : link? t = some (label, after)) :
    ∃ address, t = '[' :: (label ++ (']' :: '(' :: (address ++ (')' :: after)))) := by
  rw [link?.eq_def] at h
  split at h
  · rename_i r
    dsimp only at h
    split at h
    · rename_i s hlabel
      split at h
      · rename_i rest haddress
        split at h
        · cases h
        · obtain ⟨rfl, rfl⟩ := Prod.mk.inj (Option.some.inj h)
          -- the address is what stands in front of the first closing bracket
          refine ⟨s.takeWhile (· ≠ ')'), ?_⟩
          rw [← haddress, List.takeWhile_append_dropWhile, ← hlabel,
            List.takeWhile_append_dropWhile]
      · cases h
    · cases h
  · cases h

end

/-! ## Each rule only deletes -/

/-- A rule takes marks out, and nothing else. -/
theorem unmark_sublist (mark t : Text) : (unmark mark t).Sublist t := by
  fun_induction unmark mark t with
  | case1 t body after h ih =>
    rw [enclosed?_eq_some h]
    have hrest : (unmark mark after).Sublist (mark ++ after) :=
      ih.trans (List.sublist_append_right mark after)
    exact ((List.Sublist.refl body).append hrest).trans (List.sublist_append_right mark _)
  | case2 => exact List.Sublist.refl []
  | case3 c r _ ih => exact ih.cons_cons c

/-- The rule for links leaves a subsequence. -/
theorem unlink_sublist (t : Text) : (unlink t).Sublist t := by
  fun_induction unlink t with
  | case1 t label after h ih =>
    obtain ⟨address, rfl⟩ := link?_eq_some h
    have hrest : (unlink after).Sublist (']' :: '(' :: (address ++ (')' :: after))) :=
      (((ih.cons ')').trans (List.sublist_append_right address _)).cons '(').cons ']'
    exact ((List.Sublist.refl label).append hrest).cons '['
  | case2 => exact List.Sublist.refl []
  | case3 c r _ ih => exact ih.cons_cons c

/-- Stripping takes out all asterisks at the least. -/
theorem stripMarkers_sublist_dropAsterisks (t : Text) :
    (stripMarkers t).Sublist (dropAsterisks t) :=
  (unlink_sublist _).trans ((unmark_sublist _ _).trans (unmark_sublist _ _))

/-- Stripping takes characters out of a text and puts none in. -/
theorem stripMarkers_sublist (t : Text) : (stripMarkers t).Sublist t :=
  (stripMarkers_sublist_dropAsterisks t).trans List.filter_sublist

/-- No asterisk is left. -/
theorem not_mem_stripMarkers (t : Text) : '*' ∉ stripMarkers t := by
  intro h
  have hmem := (stripMarkers_sublist_dropAsterisks t).subset h
  simp [dropAsterisks] at hmem

/-! ## Texts without markers -/

/-- Nothing that a rule could start from occurs in the text: no asterisk, no two tildes in a row, no
backtick and no opening bracket. -/
structure Unmarked (t : Text) : Prop where
  asterisk : '*' ∉ t
  tildes : ¬ ['~', '~'] <:+: t
  backtick : '\x60' ∉ t
  bracket : '[' ∉ t

/-- A text without the mark stays as it is. -/
theorem unmark_of_not_infix {mark t : Text} (h : ¬ mark <:+: t) : unmark mark t = t := by
  fun_induction unmark mark t with
  | case1 t body after hfound =>
    rw [enclosed?_eq_some hfound] at h
    exact absurd (List.prefix_append mark _).isInfix h
  | case2 => rfl
  | case3 c r _ ih => rw [ih fun hr => h (hr.trans (List.suffix_cons c r).isInfix)]

/-- A text without an opening bracket has no links. -/
theorem unlink_of_not_mem {t : Text} (h : '[' ∉ t) : unlink t = t := by
  fun_induction unlink t with
  | case1 t label after hfound =>
    obtain ⟨address, rfl⟩ := link?_eq_some hfound
    exact absurd List.mem_cons_self h
  | case2 => rfl
  | case3 c r _ ih => rw [ih fun hr => h (List.mem_cons_of_mem c hr)]

/-- A text without markers stays as it is. -/
theorem stripMarkers_of_unmarked {t : Text} (h : Unmarked t) : stripMarkers t = t := by
  have hasterisks : dropAsterisks t = t :=
    List.filter_eq_self.2 fun c hc => decide_eq_true fun heq => h.asterisk (heq ▸ hc)
  have hbacktick : ¬ ['\x60'] <:+: t := fun hin => h.backtick (hin.subset List.mem_cons_self)
  rw [stripMarkers, hasterisks, unmark_of_not_infix h.tildes, unmark_of_not_infix hbacktick,
    unlink_of_not_mem h.bracket]

/-! ## Width -/

/-- The width of a text is the sum over its characters. -/
theorem width_cons (c : Char) (t : Text) : width (c :: t) = cells c + width t :=
  rfl

/-- A text takes no fewer cells than what is left of it when characters are taken out. -/
theorem width_le_of_sublist {s t : Text} (h : s.Sublist t) : width s ≤ width t := by
  induction h with
  | slnil => exact Nat.le_refl 0
  | cons c _ ih =>
    rw [width_cons]
    exact Nat.le_add_left_of_le ih
  | cons_cons c _ ih =>
    rw [width_cons, width_cons]
    exact Nat.add_le_add_left ih _

end MarkTex.Text
