import Mathlib.Order.Bounds.Basic
import MarkTex.Markdown.Token

/-!
# Where a block is balanced

The token that closes a block is found by counting up and down. It stands where, for the first time
behind the opening token, as many tokens of the opening kind have passed as of the closing kind, in
whatever order they come and whatever stands in between (`findClose_isLeast`). This holds for tokens
of every kind, since no kind closes itself (`closingKind_ne`). So neither what stands in front of a
block matters to where it ends, nor what stands behind its closing token.

## Shape of the proof

Tokens settle a number of open blocks if they close these and all that they open themselves. Each
token changes the number that is left to settle as it changes the depth of the search, so the search
ends behind the shortest prefix that settles it (`not_settles_take`, `settles_take`).
-/

namespace MarkTex.Markdown

/-- No kind closes itself: what closes a kind has a longer name. -/
theorem closingKind_ne (kind : String) : closingKind kind ≠ kind := by
  intro h
  have hlength : (closingKind kind).length = min (kind.length - 5) kind.length + 6 := by
    rw [closingKind, String.length_append, String.length_ofList, List.length_take,
      String.length_toList]
    rfl
  rw [h] at hlength
  omega

/-! ## Settling open blocks -/

/-- The tokens close `depth` open blocks and all those that they open themselves. -/
def Settles (openKind closeKind : String) (depth : Nat) (tokens : List Token) : Prop :=
  depth + tokens.countP (·.kind = openKind) = tokens.countP (·.kind = closeKind)

section

variable {openKind closeKind : String} {depth : Nat} {t : Token} {tokens : List Token}

theorem settles_nil : Settles openKind closeKind depth [] ↔ depth = 0 :=
  Iff.rfl

/-- An opening token adds a block to settle. -/
theorem settles_opening (hne : closeKind ≠ openKind) (ht : t.kind = openKind) :
    Settles openKind closeKind depth (t :: tokens) ↔
      Settles openKind closeKind (depth + 1) tokens := by
  simp only [Settles, List.countP_cons, decide_eq_true_eq, ht, if_pos, if_neg hne.symm]
  omega

/-- A closing token settles one block. -/
theorem settles_closing (hne : closeKind ≠ openKind) (hdepth : 1 ≤ depth)
    (ht : t.kind = closeKind) :
    Settles openKind closeKind depth (t :: tokens) ↔
      Settles openKind closeKind (depth - 1) tokens := by
  simp only [Settles, List.countP_cons, decide_eq_true_eq, ht, if_pos, if_neg hne]
  omega

/-- Tokens of other kinds settle nothing. -/
theorem settles_other (hopen : t.kind ≠ openKind) (hclose : t.kind ≠ closeKind) :
    Settles openKind closeKind depth (t :: tokens) ↔ Settles openKind closeKind depth tokens := by
  simp only [Settles, List.countP_cons, decide_eq_true_eq, if_neg hopen, if_neg hclose,
    Nat.add_zero]

/-- The search for the end of a block stays inside of the tokens. -/
theorem tokensToClose_le (openKind closeKind : String) (depth : Nat) (tokens : List Token) :
    tokensToClose openKind closeKind depth tokens ≤ tokens.length := by
  fun_induction tokensToClose openKind closeKind depth tokens with
  | case1 => exact Nat.le_refl 0
  | case2 depth t rest _ ih => exact Nat.succ_le_succ ih
  | case3 depth t rest => exact Nat.zero_le _
  | case4 depth t rest _ _ _ ih => exact Nat.succ_le_succ ih
  | case5 depth t rest _ _ ih => exact Nat.succ_le_succ ih

/-- An open block is not settled where there are no tokens. -/
theorem not_settles_nil (hdepth : 1 ≤ depth) : ¬ Settles openKind closeKind depth [] := by
  rw [settles_nil]
  omega

/-- No tokens in front of the one that is found settle the open blocks. -/
theorem not_settles_take (hne : closeKind ≠ openKind) (hdepth : 1 ≤ depth) {count : Nat}
    (hcount : count ≤ tokensToClose openKind closeKind depth tokens) :
    ¬ Settles openKind closeKind depth (tokens.take count) := by
  fun_induction tokensToClose openKind closeKind depth tokens generalizing count with
  | case1 depth =>
    rw [List.take_nil]
    exact not_settles_nil hdepth
  | case2 depth t rest ht ih =>
    -- behind the first token, what is left to settle is as deep as the search is there
    cases count with
    | zero => exact not_settles_nil hdepth
    | succ count =>
      rw [List.take_succ_cons, settles_opening hne ht]
      exact ih (Nat.le_add_left 1 depth) (Nat.le_of_succ_le_succ hcount)
  | case3 depth t rest =>
    rw [Nat.le_zero.1 hcount]
    exact not_settles_nil hdepth
  | case4 depth t rest _ ht hdeep ih =>
    cases count with
    | zero => exact not_settles_nil hdepth
    | succ count =>
      rw [List.take_succ_cons, settles_closing hne hdepth ht]
      exact ih (by omega) (Nat.le_of_succ_le_succ hcount)
  | case5 depth t rest hopen hclose ih =>
    cases count with
    | zero => exact not_settles_nil hdepth
    | succ count =>
      rw [List.take_succ_cons, settles_other hopen hclose]
      exact ih hdepth (Nat.le_of_succ_le_succ hcount)

/-- The tokens up to the one that is found settle the open blocks. -/
theorem settles_take (hne : closeKind ≠ openKind) (hdepth : 1 ≤ depth)
    (h : tokensToClose openKind closeKind depth tokens < tokens.length) :
    Settles openKind closeKind depth
      (tokens.take (tokensToClose openKind closeKind depth tokens + 1)) := by
  fun_induction tokensToClose openKind closeKind depth tokens with
  | case1 => exact absurd h (Nat.lt_irrefl 0)
  | case2 depth t rest ht ih =>
    rw [List.take_succ_cons, settles_opening hne ht]
    exact ih (Nat.le_add_left 1 depth) (Nat.lt_of_succ_lt_succ h)
  -- the innermost block is the last one, so the search ends with its closing token
  | case3 depth t rest _ ht hlast =>
    rw [List.take_succ_cons, settles_closing hne hdepth ht, List.take_zero, settles_nil]
    omega
  | case4 depth t rest _ ht hdeep ih =>
    rw [List.take_succ_cons, settles_closing hne hdepth ht]
    exact ih (by omega) (Nat.lt_of_succ_lt_succ h)
  | case5 depth t rest hopen hclose ih =>
    rw [List.take_succ_cons, settles_other hopen hclose]
    exact ih hdepth (Nat.lt_of_succ_lt_succ h)

end

/-! ## Balanced blocks -/

/-- The block that `t` opens at `index` is balanced at a `position` behind it: from the one to the
other, both included, there are as many tokens of its kind as of the kind that closes it. -/
structure Balances (t : Token) (tokens : List Token) (index position : Nat) : Prop where
  after : index < position
  within : position < tokens.length
  same : (tokens.extract index (position + 1)).countP (·.kind = t.kind) =
    (tokens.extract index (position + 1)).countP (·.kind = closingKind t.kind)

section

variable {t : Token} {tokens : List Token} {index position : Nat}

/-- What comes from an index on starts with the token there. -/
theorem drop_eq_cons (ht : tokens[index]? = some t) :
    tokens.drop index = t :: tokens.drop (index + 1) := by
  obtain ⟨hindex, rfl⟩ := List.getElem?_eq_some_iff.1 ht
  exact List.drop_eq_getElem_cons hindex

/-- The position of the closing token, counted from the opening one. -/
theorem findClose_eq (ht : tokens[index]? = some t) :
    findClose tokens index = index + 1 + lengthOf t (tokens.drop (index + 1)) := by
  rw [findClose, drop_eq_cons ht]

/-- A block ends behind its opening token. -/
theorem lt_findClose (ht : tokens[index]? = some t) : index < findClose tokens index := by
  rw [findClose_eq ht]
  omega

/-- A block ends with the tokens at the latest. -/
theorem findClose_le (ht : tokens[index]? = some t) : findClose tokens index ≤ tokens.length := by
  have hindex : index < tokens.length := (List.getElem?_eq_some_iff.1 ht).1
  have hle := tokensToClose_le t.kind (closingKind t.kind) 1 (tokens.drop (index + 1))
  rw [List.length_drop] at hle
  rw [findClose_eq ht, lengthOf]
  omega

/-- A block is balanced where the tokens behind the opening one settle it. -/
theorem balances_iff_settles (ht : tokens[index]? = some t) (count : Nat) :
    Balances t tokens index (index + 1 + count) ↔
      index + 1 + count < tokens.length ∧
        Settles t.kind (closingKind t.kind) 1 ((tokens.drop (index + 1)).take (count + 1)) := by
  have hextract : tokens.extract index (index + 1 + count + 1) =
      t :: (tokens.drop (index + 1)).take (count + 1) := by
    have hcount : index + 1 + count + 1 - index = count + 1 + 1 := by omega
    rw [List.extract_eq_take_drop, drop_eq_cons ht, hcount, List.take_succ_cons]
  have hsame :
      Settles t.kind (closingKind t.kind) 0 (tokens.extract index (index + 1 + count + 1)) ↔
        Settles t.kind (closingKind t.kind) 1 ((tokens.drop (index + 1)).take (count + 1)) := by
    rw [hextract, settles_opening (closingKind_ne t.kind) rfl]
  rw [← hsame, Settles, Nat.zero_add]
  exact ⟨fun h => ⟨h.within, h.same⟩, fun h => ⟨by omega, h.1, h.2⟩⟩

/-- Nothing is balanced in front of the token that closes a block. -/
theorem not_balances (ht : tokens[index]? = some t) (h : position < findClose tokens index) :
    ¬ Balances t tokens index position := by
  intro hbalances
  have hafter := hbalances.after
  obtain ⟨count, rfl⟩ : ∃ count, position = index + 1 + count := ⟨position - (index + 1), by omega⟩
  rw [findClose_eq ht, lengthOf] at h
  exact not_settles_take (closingKind_ne t.kind) (Nat.le_refl 1) (by omega)
    ((balances_iff_settles ht count).1 hbalances).2

/-- Where a block is closed, as many tokens of the one kind have passed as of the other. -/
theorem balances_findClose (ht : tokens[index]? = some t)
    (h : findClose tokens index < tokens.length) :
    Balances t tokens index (findClose tokens index) := by
  rw [findClose_eq ht] at h ⊢
  refine (balances_iff_settles ht _).2 ⟨h, settles_take (closingKind_ne t.kind) (Nat.le_refl 1) ?_⟩
  rw [List.length_drop, ← lengthOf]
  omega

/-- The closing token stands at the first position at which the block is balanced, or behind all
tokens if there is none. -/
theorem findClose_eq_iff (ht : tokens[index]? = some t) {close : Nat} :
    findClose tokens index = close ↔
      IsLeast {position | Balances t tokens index position} close ∨
        close = tokens.length ∧ ∀ position, ¬ Balances t tokens index position := by
  constructor
  · rintro rfl
    rcases (findClose_le ht).lt_or_eq with hfound | hnone
    · refine .inl ⟨balances_findClose ht hfound, fun position hposition => ?_⟩
      exact not_lt.1 fun hlt => not_balances ht hlt hposition
    · refine .inr ⟨hnone, fun position hposition => ?_⟩
      exact not_balances ht (hnone ▸ hposition.within) hposition
  · rintro (⟨hclose, hleast⟩ | ⟨rfl, hnone⟩)
    · have hle : findClose tokens index ≤ close := not_lt.1 fun hlt => not_balances ht hlt hclose
      exact hle.antisymm (hleast (balances_findClose ht (hle.trans_lt hclose.within)))
    · exact (findClose_le ht).eq_of_not_lt fun hlt => hnone _ (balances_findClose ht hlt)

/-! ## What stands around a block -/

/-- More tokens at the end do not change where a block is balanced before. -/
theorem balances_append (h : position < tokens.length) (more : List Token) :
    Balances t (tokens ++ more) index position ↔ Balances t tokens index position := by
  have hextract : (tokens ++ more).extract index (position + 1) =
      tokens.extract index (position + 1) := by
    rw [List.extract_eq_drop_take', List.extract_eq_drop_take', List.take_append_of_le_length h]
  constructor
  · rintro ⟨hafter, -, hsame⟩
    rw [hextract] at hsame
    exact ⟨hafter, h, hsame⟩
  · rintro ⟨hafter, hwithin, hsame⟩
    rw [← hextract] at hsame
    exact ⟨hafter, by rw [List.length_append]; omega, hsame⟩

/-- Tokens behind a closed block do not matter to where it ends. -/
theorem findClose_append (ht : tokens[index]? = some t)
    (h : findClose tokens index < tokens.length) (more : List Token) :
    findClose (tokens ++ more) index = findClose tokens index := by
  have hindex : index < tokens.length := (List.getElem?_eq_some_iff.1 ht).1
  have htoo : (tokens ++ more)[index]? = some t := by rw [List.getElem?_append_left hindex, ht]
  refine (findClose_eq_iff htoo).2 (.inl ⟨(balances_append h more).2 (balances_findClose ht h), ?_⟩)
  intro position hposition
  by_contra hlt
  have hfirst : position < findClose tokens index := not_le.1 hlt
  exact not_balances ht hfirst ((balances_append (hfirst.trans h) more).1 hposition)

/-- What stands in front of a block does not matter to where it ends. -/
theorem findClose_before (ht : tokens[index]? = some t) {before : List Token}
    (hbefore : before.length = index) :
    findClose (before ++ tokens.drop index) index = findClose tokens index := by
  have hdrop : (before ++ tokens.drop index).drop index = tokens.drop index :=
    List.drop_left' hbefore
  rw [findClose, findClose, hdrop, drop_eq_cons ht]

/-- **A block ends where it is balanced for the first time**, or behind all tokens if it never is,
whatever the kinds of the tokens. So its end is behind the token that opens it; it stays where it is
whatever is added behind a closing token that was found, and whatever stands in front of the block
in place of what did. -/
theorem findClose_isLeast (ht : tokens[index]? = some t) :
    (∀ close, findClose tokens index = close ↔
      IsLeast {position | Balances t tokens index position} close ∨
        close = tokens.length ∧ ∀ position, ¬ Balances t tokens index position) ∧
    index < findClose tokens index ∧
    (findClose tokens index < tokens.length →
      ∀ more, findClose (tokens ++ more) index = findClose tokens index) ∧
    ∀ before : List Token, before.length = index →
      findClose (before ++ tokens.drop index) index = findClose tokens index :=
  ⟨fun _ => findClose_eq_iff ht, lt_findClose ht, findClose_append ht,
    fun _ hbefore => findClose_before ht hbefore⟩

end

/-- The kind `li` is too short for its last five characters to be cut off, so `_close` closes it.
The first of the two in a row closes the block inside, and a block that is opened later is not asked
for. -/
theorem findClose_isLeast_shortKind :
    let t : Token := { kind := "li" }
    let tokens : List Token :=
      ["hr", "li", "p_close", "li", "_close", "_close", "li"].map fun kind => { kind }
    (tokens[1]? = some t ∧ findClose tokens 1 < tokens.length) ∧
      IsLeast {position | Balances t tokens 1 position} 5 ∧
      (∀ more, findClose (tokens ++ more) 1 = findClose tokens 1) ∧
      findClose ([{ kind := "_close" }] ++ tokens.drop 1) 1 = findClose tokens 1 := by
  intro t tokens
  have ht : tokens[1]? = some t := rfl
  -- a kind of less than five letters is closed by tokens of the kind that is left when these are
  -- cut off
  have hclose : findClose tokens 1 = 5 := by decide +kernel
  have hfound : findClose tokens 1 < tokens.length := by
    rw [hclose]
    decide
  obtain ⟨hleast, -, happend, hbefore⟩ := findClose_isLeast ht
  refine ⟨⟨ht, hfound⟩, ?_, happend hfound, hbefore _ rfl⟩
  exact ((hleast 5).1 hclose).resolve_right fun hnone => absurd hnone.1 (by decide)

end MarkTex.Markdown
