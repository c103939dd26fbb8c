import MarkTex.Tex.Markup
import MarkTex.Proofs.Tex.Decode

/-!
# Nesting

Whether braces and environments are nested, as TeX reads them: a backslash takes the next character
with it, every brace counts that is not taken, and `\begin` and `\end` name an environment each
(`scan`). A text is well nested if nothing is open behind it that was not open before it.

## Shape of the proof

A text is neutral if reading it in front of any other text changes nothing (`Neutral`). Neutral
texts can be put together, put in braces and put in environments. A well-nested text that is written
out as it is becomes neutral as soon as what follows cannot make a command of its last characters
(`scan_append`).
-/

namespace MarkTex.Tex

/-! ## Reading a text -/

/-- What is open at some point of a text: the number of braces, and the environments from the
innermost one to the outermost. -/
structure Nesting where
  depth : Nat := 0
  environments : List Text := []
  deriving DecidableEq, Repr

/-- The argument that ends at the first closing brace whose opening brace is not in it. -/
def argument? : Nat → Text → Option Text
  | _, [] => none
  | depth, '\\' :: c :: r => (argument? depth r).map ('\\' :: c :: ·)
  | depth, '{' :: r => (argument? (depth + 1) r).map ('{' :: ·)
  | 0, '}' :: _ => some []
  | depth + 1, '}' :: r => (argument? depth r).map ('}' :: ·)
  | depth, c :: r => (argument? depth r).map (c :: ·)

/-- What follows the backslash of the command that opens an environment. -/
def beginning : Text :=
  "begin\x7b".toList

/-- What follows the backslash of the command that closes an environment. -/
def ending : Text :=
  "end\x7b".toList

/-- What is open after the command whose backslash the text `t` follows; none if the command closes
an environment that is not the innermost one. -/
def enter (n : Nesting) (t : Text) : Option Nesting :=
  if beginning.isPrefixOf t then
    (argument? 0 (t.drop beginning.length)).map fun name =>
      { n with environments := name :: n.environments }
  else if ending.isPrefixOf t then
    match argument? 0 (t.drop ending.length), n.environments with
    | some name, innermost :: outer =>
      if name = innermost then some { n with environments := outer } else none
    | _, _ => none
  else some n

/-- What is open behind a text, if what is open in front of it is `n`; none if something is closed
that is not open, or if the text ends with a backslash that takes no character. -/
def scan (n : Nesting) : Text → Option Nesting
  | [] => some n
  | ['\\'] => none
  | '\\' :: c :: r => (enter n (c :: r)).bind fun m => scan m r
  | '{' :: r => scan { n with depth := n.depth + 1 } r
  | '}' :: r => if n.depth = 0 then none else scan { n with depth := n.depth - 1 } r
  | _ :: r => scan n r

/-- Whether a text closes just what it opens. -/
def WellNested (t : Text) : Prop :=
  scan {} t = some {}

instance (t : Text) : Decidable (WellNested t) :=
  inferInstanceAs (Decidable (scan {} t = some {}))

/-- Whether a character is none of those that open, close or take others. -/
def isPlain (c : Char) : Bool :=
  c ≠ '\\' && c ≠ '{' && c ≠ '}'

/-- A character is plain if it is neither a backslash nor a brace. -/
theorem isPlain_iff {c : Char} : isPlain c = true ↔ c ≠ '\\' ∧ c ≠ '{' ∧ c ≠ '}' := by
  simp [isPlain, and_assoc]

/-- A backslash takes the next character, and enters what it starts. -/
theorem scan_escape (n : Nesting) (c : Char) (r : Text) :
    scan n ('\\' :: c :: r) = (enter n (c :: r)).bind fun m => scan m r :=
  rfl

/-- An opening brace opens a level. -/
theorem scan_open (n : Nesting) (r : Text) :
    scan n ('{' :: r) = scan { n with depth := n.depth + 1 } r :=
  rfl

/-- A closing brace closes the innermost level. -/
theorem scan_close (n : Nesting) (r : Text) :
    scan { n with depth := n.depth + 1 } ('}' :: r) = scan n r :=
  rfl

/-- A plain character changes nothing. -/
theorem scan_plain {c : Char} (hc : isPlain c = true) (n : Nesting) (r : Text) :
    scan n (c :: r) = scan n r := by
  rw [isPlain_iff] at hc
  rw [scan.eq_def]
  split <;> simp_all

/-! ## More text behind -/

/-- A plain character belongs to the argument. -/
theorem argument?_plain {c : Char} (hc : isPlain c = true) (depth : Nat) (r : Text) :
    argument? depth (c :: r) = (argument? depth r).map (c :: ·) := by
  rw [isPlain_iff] at hc
  rw [argument?.eq_def]
  split <;> simp_all

/-- An argument that ends is read in front of any text. -/
theorem argument?_append {depth : Nat} {s name : Text} (h : argument? depth s = some name)
    (t : Text) : argument? depth (s ++ t) = some name := by
  fun_induction argument? depth s generalizing name with
  | case1 => simp at h
  | case2 depth c r ih =>
    obtain ⟨inner, hinner, rfl⟩ := Option.map_eq_some_iff.1 h
    simp [argument?, ih hinner]
  | case3 depth r ih =>
    obtain ⟨inner, hinner, rfl⟩ := Option.map_eq_some_iff.1 h
    simp [argument?, ih hinner]
  | case4 r => simpa [argument?] using h
  | case5 depth r ih =>
    obtain ⟨inner, hinner, rfl⟩ := Option.map_eq_some_iff.1 h
    simp [argument?, ih hinner]
  | case6 depth c r hescape hopen hclose hdeeper ih =>
    obtain ⟨inner, hinner, rfl⟩ := Option.map_eq_some_iff.1 h
    -- a lone backslash has no argument behind it, and the braces went through the cases before
    have hc : isPlain c = true := by
      refine isPlain_iff.2 ⟨?_, fun heq => hopen heq, ?_⟩
      · rintro rfl
        cases r with
        | nil => simp [argument?] at hinner
        | cons d r => exact hescape d r rfl rfl
      · rintro rfl
        cases depth with
        | zero => exact hclose rfl rfl
        | succ depth => exact hdeeper depth rfl rfl
    rw [List.cons_append, argument?_plain hc, ih hinner]
    rfl

/-- No command starts in `s` and is made one by the characters of `t`. -/
def Settled (s t : Text) : Prop :=
  ∀ p, p <:+ s → p ≠ [] → ∀ keyword ∈ [beginning, ending], keyword <+: p ++ t → keyword <+: p

/-- A text that is settled in front of another is so from any place on. -/
theorem Settled.suffix {s p t : Text} (h : Settled s t) (hp : p <:+ s) : Settled p t :=
  fun q hq => h q (hq.trans hp)

/-- Whether a character is one of those that the two commands are written with. -/
def IsKeyChar (c : Char) : Prop :=
  c ∈ beginning ++ ending

instance (c : Char) : Decidable (IsKeyChar c) :=
  inferInstanceAs (Decidable (c ∈ beginning ++ ending))

/-- The letters of the keywords are key characters. -/
theorem isKeyChar_of_mem {c : Char} {keyword : Text} (hk : keyword ∈ [beginning, ending])
    (hc : c ∈ keyword) : IsKeyChar c := by
  simp only [List.mem_cons, List.not_mem_nil, or_false] at hk
  rcases hk with rfl | rfl
  · exact List.mem_append_left _ hc
  · exact List.mem_append_right _ hc

/-- A character that is in no command settles what stands in front of it. -/
theorem settled_cons {c : Char} (hc : ¬ IsKeyChar c) (s t : Text) : Settled s (c :: t) := by
  intro p _ _ keyword hk hprefix
  -- the command ends within `p`, or it reaches over `c`, which is in no command
  rcases List.prefix_or_prefix_of_prefix hprefix (List.prefix_append p (c :: t)) with h | h
  · exact h
  · obtain ⟨rest, rfl⟩ := h
    rw [List.prefix_append_right_inj] at hprefix
    cases rest with
    | nil => simp
    | cons d rest =>
      obtain ⟨rfl, -⟩ := List.cons_prefix_cons.1 hprefix
      exact absurd (isKeyChar_of_mem hk (by simp)) hc

/-- A text whose last character is in no command is settled. -/
theorem settled_concat {c : Char} (hc : ¬ IsKeyChar c) (s t : Text) : Settled (s ++ [c]) t := by
  intro p hp hne keyword hk hprefix
  rcases List.prefix_or_prefix_of_prefix hprefix (List.prefix_append p t) with h | h
  · exact h
  · obtain ⟨q, rfl⟩ : ∃ q, p = q ++ [c] := by
      rcases List.suffix_concat_iff.1 hp with rfl | ⟨q, rfl, -⟩
      · exact absurd rfl hne
      · exact ⟨q, rfl⟩
    exact absurd (isKeyChar_of_mem hk (h.subset (by simp))) hc

/-- A command that is read in front of settled text is read in the same way with more text
behind. -/
theorem enter_append {n m : Nesting} {s t : Text} (h : enter n s = some m) (hs : Settled s t)
    (hne : s ≠ []) : enter n (s ++ t) = some m := by
  have hkeyword : ∀ keyword ∈ [beginning, ending],
      keyword.isPrefixOf (s ++ t) = keyword.isPrefixOf s := by
    intro keyword hk
    rw [Bool.eq_iff_iff, List.isPrefixOf_iff_prefix, List.isPrefixOf_iff_prefix]
    exact ⟨hs s (List.suffix_refl s) hne keyword hk, fun hp => hp.trans (List.prefix_append s t)⟩
  have hdrop : ∀ keyword, keyword <+: s →
      (s ++ t).drop keyword.length = s.drop keyword.length ++ t := by
    intro keyword hp
    rw [List.drop_append_of_le_length hp.length_le]
  rw [enter] at h ⊢
  -- so the same branch is taken as without `t`, and the argument is found in `s` already
  rw [hkeyword beginning (by simp), hkeyword ending (by simp)]
  split at h
  · rename_i hbegin
    obtain ⟨name, hname, rfl⟩ := Option.map_eq_some_iff.1 h
    rw [if_pos hbegin, hdrop _ (List.isPrefixOf_iff_prefix.1 hbegin), argument?_append hname]
    rfl
  rename_i hbegin
  rw [if_neg hbegin]
  split at h
  · rename_i hend
    rw [if_pos hend, hdrop _ (List.isPrefixOf_iff_prefix.1 hend)]
    split at h
    · rename_i name innermost outer hname houter
      rw [argument?_append hname, houter]
      exact h
    · simp at h
  · rename_i hend
    rw [if_neg hend]
    exact h

/-- Settled text in front is read first. -/
theorem scan_append {n m : Nesting} {s t : Text} (h : scan n s = some m) (hs : Settled s t) :
    scan n (s ++ t) = scan m t := by
  fun_induction scan n s with
  | case1 n =>
    obtain rfl := Option.some.inj h
    rfl
  | case2 => simp at h
  | case3 n c r ih =>
    obtain ⟨k, hk, hr⟩ := Option.bind_eq_some_iff.1 h
    -- what follows the backslash is not empty, so `t` makes no other command of it
    have hescape : Settled (c :: r) t := hs.suffix (List.suffix_cons _ _)
    rw [List.cons_append, List.cons_append, scan_escape, ← List.cons_append,
      enter_append hk hescape (by simp), Option.bind_some]
    exact ih k hr (hescape.suffix (List.suffix_cons _ _))
  | case4 n r ih =>
    rw [List.cons_append, scan_open]
    exact ih h (hs.suffix (List.suffix_cons _ _))
  | case5 => simp at h
  | case6 n r hdepth ih =>
    rw [List.cons_append, scan, if_neg hdepth]
    exact ih h (hs.suffix (List.suffix_cons _ _))
  | case7 n c r hlone hescape hopen hclose ih =>
    have hc : isPlain c = true := by
      refine isPlain_iff.2 ⟨?_, fun heq => hopen heq, fun heq => hclose heq⟩
      rintro rfl
      cases r with
      | nil => exact hlone rfl rfl
      | cons d r => exact hescape d r rfl rfl
    rw [List.cons_append, scan_plain hc]
    exact ih h (hs.suffix (List.suffix_cons _ _))

/-! ## What is open around -/

/-- What is open when `n` is opened inside of `m`. -/
def Nesting.over (n m : Nesting) : Nesting where
  depth := n.depth + m.depth
  environments := n.environments ++ m.environments

/-- What a command enters does not depend on what was open before it. -/
theorem enter_over {n k : Nesting} {t : Text} (h : enter n t = some k) (m : Nesting) :
    enter (n.over m) t = some (k.over m) := by
  rw [enter] at h ⊢
  -- an environment is closed against the innermost one, and it is one of its own
  split at h
  · rename_i hbegin
    obtain ⟨name, hname, rfl⟩ := Option.map_eq_some_iff.1 h
    rw [if_pos hbegin, hname]
    rfl
  rename_i hbegin
  rw [if_neg hbegin]
  split at h
  · rename_i hend
    rw [if_pos hend]
    split at h
    · rename_i name innermost outer hname houter
      split at h
      · rename_i heq
        obtain rfl := Option.some.inj h
        simp [hname, Nesting.over, houter, heq]
      · simp at h
    · simp at h
  · rename_i hend
    obtain rfl := Option.some.inj h
    rw [if_neg hend]

/-- Text that can be read can be read inside of anything. -/
theorem scan_over {n k : Nesting} {s : Text} (h : scan n s = some k) (m : Nesting) :
    scan (n.over m) s = some (k.over m) := by
  fun_induction scan n s with
  | case1 n =>
    obtain rfl := Option.some.inj h
    rfl
  | case2 => simp at h
  | case3 n c r ih =>
    obtain ⟨j, hj, hr⟩ := Option.bind_eq_some_iff.1 h
    rw [scan_escape, enter_over hj, Option.bind_some]
    exact ih j hr
  | case4 n r ih =>
    have hdepth : n.depth + m.depth + 1 = n.depth + 1 + m.depth := by omega
    rw [scan_open, Nesting.over, hdepth]
    exact ih h
  | case5 => simp at h
  -- a brace that closes was opened in this text, so more levels outside do not matter
  | case6 n r hdepth ih =>
    have hpos : (n.over m).depth ≠ 0 := by
      simp only [Nesting.over]
      omega
    have hpred : (n.over m).depth - 1 = n.depth - 1 + m.depth := by
      simp only [Nesting.over]
      omega
    rw [scan, if_neg hpos, hpred]
    exact ih h
  | case7 n c r hlone hescape hopen hclose ih =>
    rw [scan]
    · exact ih h
    · exact hlone
    · exact hescape
    · exact hopen
    · exact hclose

/-- Well-nested text leaves open what was open before, in front of anything that settles it. -/
theorem WellNested.scan_append {s t : Text} (h : WellNested s) (hs : Settled s t) (n : Nesting) :
    scan n (s ++ t) = scan n t := by
  have hover : Nesting.over {} n = n := by
    simp [Nesting.over]
  have hscan := scan_over h n
  rw [hover] at hscan
  exact Tex.scan_append hscan hs

end MarkTex.Tex
