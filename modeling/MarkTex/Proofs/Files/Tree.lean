import MarkTex.Files.Tree

/-!
# What files are read and changed

Where a path leads is told by its names alone, whatever the tree holds (`locate_eq_ok`). A change at
a path gives the file there new contents and leaves what all other names lead to (`modify_eq_ok`).

A file that comes up or changes at some names does not lead paths elsewhere: what is read past it
was there before (`read_of_off`).
-/

namespace MarkTex.FileTree

variable {tree after : FileTree} {here names : List String} {path : Path}

/-! ## Entries -/

/-- Names that lead on from the root are looked up among the entries. -/
theorem find_eq_lookup (tree : FileTree) (hne : names ≠ []) :
    tree.find names = tree.entries.lookup names := by
  rw [find, if_neg]
  rw [List.isEmpty_iff]
  exact hne

/-- Changing the entry at some names changes what these names lead to, and nothing else. -/
theorem lookup_map_entry (entries : List (List String × Entry)) (names m : List String)
    (entry : Entry) :
    (entries.map fun (n, old) => if n = names then (n, entry) else (n, old)).lookup m =
      (entries.lookup m).map fun old => if m = names then entry else old := by
  induction entries with
  | nil => rfl
  | cons first rest ih =>
    obtain ⟨n, old⟩ := first
    rw [List.map_cons]
    have hkey : (if n = names then (n, entry) else (n, old)) =
        (n, if n = names then entry else old) := by
      split <;> rfl
    dsimp only
    rw [hkey, List.lookup_cons, List.lookup_cons, ih]
    by_cases hm : m = n
    · subst hm
      rw [beq_self_eq_true]
      rfl
    · rw [beq_eq_false_iff_ne.2 hm]

/-- An entry that is put at names is found there, and nothing else changes. -/
theorem find_put (tree : FileTree) (hne : names ≠ []) (entry : Entry) (m : List String) :
    (tree.put names entry).find m = if m = names then some entry else tree.find m := by
  -- the root is no entry and is there always
  by_cases hm : m = []
  · have hother : m ≠ names := fun h => hne (h.symm.trans hm)
    rw [if_neg hother, hm]
    rfl
  rw [find_eq_lookup _ hm, find_eq_lookup _ hm, put]
  cases hold : tree.entries.lookup names with
  | some old =>
    rw [if_pos Option.isSome_some, lookup_map_entry]
    by_cases hsame : m = names
    · rw [if_pos hsame, hsame, hold, Option.map_some, if_pos rfl]
    · rw [if_neg hsame]
      cases tree.entries.lookup m with
      | none => rfl
      | some _ => rw [Option.map_some, if_neg hsame]
  | none =>
    rw [Option.isSome_none, if_neg Bool.false_ne_true, List.lookup_append]
    by_cases hsame : m = names
    · rw [if_pos hsame, hsame, hold, Option.none_or, List.lookup_cons, beq_self_eq_true]
    · rw [if_neg hsame, List.lookup_cons, beq_eq_false_iff_ne.2 hsame, List.lookup_nil,
        Option.or_none]

/-! ## Paths -/

/-- One name of a path leads on from where the names before it lead. -/
def onward (reached : List String) (name : String) : List String :=
  if name = ".." then reached.dropLast else reached ++ [name]

/-- A path is resolved by going on from where one stands, or from the root. -/
theorem resolve_eq_foldl (here : List String) (path : Path) :
    path.resolve here = path.names.foldl onward (if path.root = "" then here else []) :=
  rfl

/-- What was found at the end of a path: what its last name leads to, or a directory that was gone
back to. -/
theorem follow_eq_ok {dir place : List String} {found : Option Entry}
    (h : tree.follow dir names = .ok (place, found)) :
    place = names.foldl onward dir ∧
      (found = some .directory ∨ place ≠ [] ∧ found = tree.find place) := by
  induction names generalizing dir with
  | nil =>
    rw [follow] at h
    obtain ⟨rfl, rfl⟩ := Prod.mk.inj (Except.ok.inj h)
    exact ⟨rfl, .inl rfl⟩
  | cons name rest ih =>
    rw [follow] at h
    rw [List.foldl_cons, onward]
    -- going up needs no entry, so that what was passed on the way is not looked at again
    by_cases hparent : name = ".."
    · rw [if_pos hparent] at h ⊢
      exact ih h
    · rw [if_neg hparent] at h ⊢
      split at h
      · exact nomatch h
      dsimp only at h
      split at h
      · exact ih h
      · split at h
        · rename_i hlast
          obtain ⟨rfl, rfl⟩ := Prod.mk.inj (Except.ok.inj h)
          rw [List.isEmpty_iff.1 hlast]
          exact ⟨rfl, .inr ⟨List.append_ne_nil_of_right_ne_nil _ (List.cons_ne_nil _ _), rfl⟩⟩
        · split at h
          · exact nomatch h
          · exact nomatch h

/-- **Where a path leads does not depend on the tree.** -/
theorem locate_eq_ok {place : List String} {found : Option Entry}
    (h : tree.locate here path = .ok (place, found)) :
    place = path.resolve here ∧
      (found = some .directory ∨ place ≠ [] ∧ found = tree.find place) := by
  rw [locate] at h
  split at h
  · exact nomatch h
  split at h
  · exact nomatch h
  · exact follow_eq_ok h

/-! ## Changes -/

/-- **A change of the file at a path changes what its names lead to, and nothing else.** -/
theorem modify_eq_ok {change : Bytes → Bytes} (h : tree.modify here path change = .ok after) :
    ∃ old, (tree.find (path.resolve here) = some (.file old) ∨
        tree.find (path.resolve here) = none ∧ old = []) ∧
      ∀ m, after.find m =
        if m = path.resolve here then some (.file (change old)) else tree.find m := by
  rw [modify] at h
  split at h
  · exact nomatch h
  · exact nomatch h
  · rename_i place content hlocate
    obtain ⟨rfl, hfound⟩ := locate_eq_ok hlocate
    -- a file that is found is the one that the names lead to, and not a directory gone back to
    obtain hdir | ⟨hne, hfind⟩ := hfound
    · exact nomatch hdir
    · obtain rfl := Except.ok.inj h
      exact ⟨content, .inl hfind.symm, find_put tree hne _⟩
  · rename_i place hlocate
    obtain ⟨rfl, hfound⟩ := locate_eq_ok hlocate
    obtain hdir | ⟨hne, hfind⟩ := hfound
    · exact nomatch hdir
    · obtain rfl := Except.ok.inj h
      exact ⟨[], .inr ⟨hfind.symm, rfl⟩, find_put tree hne _⟩

/-- A file that is written holds what was written, and nothing else changes. -/
theorem write_eq_ok {content : Bytes} (h : tree.write here path content = .ok after)
    (m : List String) :
    after.find m = if m = path.resolve here then some (.file content) else tree.find m := by
  obtain ⟨old, -, hfind⟩ := modify_eq_ok h
  exact hfind m

/-! ## Trees that agree off some names -/

/-- Two trees differ at most in a file at the given names, which is no directory in either. -/
def AgreeOff (off : Option (List String)) (before after : FileTree) : Prop :=
  ∀ m, after.find m = before.find m ∨
    off = some m ∧ before.find m ≠ some .directory ∧ ∃ content, after.find m = some (.file content)

variable {off : Option (List String)} {before : FileTree}

theorem AgreeOff.refl (off : Option (List String)) (tree : FileTree) : AgreeOff off tree tree :=
  fun _ => .inl rfl

theorem AgreeOff.trans {middle : FileTree} (h₁ : AgreeOff off before middle)
    (h₂ : AgreeOff off middle after) : AgreeOff off before after := by
  intro m
  obtain hsame | ⟨hoff, hmiddle, hfile⟩ := h₂ m
  · rw [hsame]
    exact h₁ m
  · refine .inr ⟨hoff, ?_, hfile⟩
    obtain hsame | ⟨-, hbefore, -⟩ := h₁ m
    · rw [← hsame]
      exact hmiddle
    · exact hbefore

/-- Trees that agree lead to the same entries at all other names. -/
theorem AgreeOff.find_eq (h : AgreeOff off before after) {m : List String} (hm : off ≠ some m) :
    after.find m = before.find m :=
  (h m).resolve_right fun hoff => hm hoff.1

/-- More contents at the end of a file change that file at most. -/
theorem agreeOff_append {content : Bytes} (h : tree.append here path content = .ok after) :
    AgreeOff (some (path.resolve here)) tree after := by
  obtain ⟨old, hold, hfind⟩ := modify_eq_ok h
  intro m
  rw [hfind m]
  by_cases hm : m = path.resolve here
  · rw [if_pos hm, hm]
    refine .inr ⟨rfl, ?_, _, rfl⟩
    obtain hfile | ⟨hnone, -⟩ := hold
    · rw [hfile]
      nofun
    · rw [hnone]
      nofun
  · rw [if_neg hm]
    exact .inl rfl

/-- A path that leads to a file other than that which may differ leads there in both trees. -/
theorem AgreeOff.follow_eq (h : AgreeOff off before after) {dir place : List String}
    {content : Bytes} (hplace : off ≠ some place)
    (hfollow : after.follow dir names = .ok (place, some (.file content))) :
    before.follow dir names = .ok (place, some (.file content)) := by
  induction names generalizing dir with
  | nil => exact nomatch (Prod.mk.inj (Except.ok.inj hfollow)).2
  | cons name rest ih =>
    rw [follow] at hfollow ⊢
    by_cases hparent : name = ".."
    · rw [if_pos hparent] at hfollow ⊢
      exact ih hfollow
    · rw [if_neg hparent] at hfollow ⊢
      split at hfollow
      · exact nomatch hfollow
      rename_i hshort
      rw [if_neg hshort]
      dsimp only at hfollow ⊢
      split at hfollow
      · rename_i hdirectory
        -- a directory of the tree after was one before, since the file that may differ is none
        have hsame : before.find (dir ++ [name]) = some .directory := by
          obtain hsame | ⟨-, -, _, hfile⟩ := h (dir ++ [name])
          · rw [← hsame, hdirectory]
          · rw [hdirectory] at hfile
            exact nomatch hfile
        rw [hsame]
        exact ih hfollow
      · split at hfollow
        · rename_i hlast
          obtain ⟨hhere, hfound⟩ := Prod.mk.inj (Except.ok.inj hfollow)
          have hsame : before.find (dir ++ [name]) = some (.file content) := by
            rw [← h.find_eq (hhere ▸ hplace), hfound]
          rw [hsame]
          dsimp only
          rw [if_pos hlast, hhere]
        · split at hfollow
          · exact nomatch hfollow
          · exact nomatch hfollow

/-- **A file that changes does not change what is read elsewhere.** -/
theorem AgreeOff.read_eq (h : AgreeOff off before after) {content : Bytes}
    (hplace : off ≠ some (path.resolve here)) (hread : after.read here path = .ok content) :
    before.read here path = .ok content := by
  rw [read] at hread
  split at hread
  · exact nomatch hread
  · rename_i place found hlocate
    obtain rfl := Except.ok.inj hread
    obtain ⟨rfl, -⟩ := locate_eq_ok hlocate
    rw [locate] at hlocate
    rw [read, locate]
    split at hlocate
    · exact nomatch hlocate
    rename_i hnull
    rw [if_neg hnull]
    split at hlocate
    · exact nomatch hlocate
    rename_i hlong
    rw [if_neg hlong, h.follow_eq hplace hlocate]
  · exact nomatch hread
  · exact nomatch hread

end MarkTex.FileTree
