import MarkTex.Proofs.Table.Share

/-!
# The widths that are allocated

Over exact fractions, whatever the lengths, every list of columns, each of them there and none
twice, is given widths (`exists_allocated`): whole hundredths, none for a column that is not listed,
and together no more than the space and at most a hundredth less for each column where the shares
had to be cut down.

## Shape of the proof

The widths are placed one by one at the listed columns (`widthsOver_eq`). As these are distinct,
each keeps the width that is placed there (`getElem?_place`) and the widths come to the sum of what
is placed (`sum_place`), so that the bounds of the shares carry over.
-/

namespace MarkTex.Table

open Fraction

/-! ## Placing -/

/-- A column at which nothing is placed keeps its width. -/
theorem getElem?_place_of_not_mem {widths : List Nat} {placed : List (Nat × Nat)} {column : Nat}
    (h : column ∉ placed.map Prod.fst) : (place widths placed)[column]? = widths[column]? := by
  induction placed generalizing widths with
  | nil => rfl
  | cons first placed ih =>
    rw [List.map_cons, List.mem_cons, not_or] at h
    rw [place, ih h.2, List.getElem?_set_ne (Ne.symm h.1)]

/-- A width stays where it is placed, if no other width is placed there. -/
theorem getElem?_place_of_same {widths : List Nat} {placed : List (Nat × Nat)} {column width : Nat}
    (hplaced : column ∈ placed.map Prod.fst)
    (hsame : ∀ item ∈ placed, item.1 = column → item.2 = width) (hcolumn : column < widths.length) :
    (place widths placed)[column]? = some width := by
  induction placed generalizing widths with
  | nil => exact absurd hplaced List.not_mem_nil
  | cons first placed ih =>
    rw [List.forall_mem_cons] at hsame
    rw [place]
    by_cases hlater : column ∈ placed.map Prod.fst
    · exact ih hlater hsame.2 (by rwa [List.length_set])
    · rw [List.map_cons, List.mem_cons] at hplaced
      obtain rfl := hplaced.resolve_right hlater
      rw [getElem?_place_of_not_mem hlater, List.getElem?_set_self hcolumn, hsame.1 rfl]

/-- A column at which a width is placed has it, if nothing else is placed there. -/
theorem getElem?_place {widths : List Nat} {placed : List (Nat × Nat)}
    (hdistinct : (placed.map Prod.fst).Nodup) {item : Nat × Nat} (hitem : item ∈ placed)
    (hcolumn : item.1 < widths.length) : (place widths placed)[item.1]? = some item.2 := by
  refine getElem?_place_of_same (List.mem_map_of_mem hitem) ?_ hcolumn
  intro other hother heq
  rw [List.inj_on_of_nodup_map hdistinct hother hitem heq]

/-- Every width was there before or was placed. -/
theorem mem_place {widths : List Nat} {placed : List (Nat × Nat)} {width : Nat}
    (h : width ∈ place widths placed) : width ∈ widths ∨ width ∈ placed.map Prod.snd := by
  induction placed generalizing widths with
  | nil => exact .inl h
  | cons first placed ih =>
    rw [place] at h
    rw [List.map_cons, List.mem_cons]
    rcases ih h with h | h
    · exact (List.mem_or_eq_of_mem_set h).imp id .inl
    · exact .inr (.inr h)

theorem sum_set_of_zero {widths : List Nat} {column : Nat} (h : widths[column]? = some 0)
    (width : Nat) :
    ((widths.set column width).map portion).sum = (widths.map portion).sum + portion width := by
  induction widths generalizing column with
  | nil => exact nomatch h
  | cons first widths ih =>
    cases column with
    | zero =>
      obtain rfl : first = 0 := Option.some.inj h
      rw [List.set_cons_zero, List.map_cons, List.map_cons, List.sum_cons, List.sum_cons]
      simp [portion, add_comm]
    | succ column =>
      rw [List.set_cons_succ, List.map_cons, List.map_cons, List.sum_cons, List.sum_cons, ih h,
        add_assoc]

/-- Widths that are placed at distinct columns without a width add up. -/
theorem sum_place {widths : List Nat} {placed : List (Nat × Nat)}
    (hdistinct : (placed.map Prod.fst).Nodup)
    (hzero : ∀ item ∈ placed, widths[item.1]? = some 0) :
    ((place widths placed).map portion).sum =
      (widths.map portion).sum + (placed.map fun item => portion item.2).sum := by
  induction placed generalizing widths with
  | nil => simp [place]
  | cons first placed ih =>
    rw [List.map_cons, List.nodup_cons] at hdistinct
    rw [List.forall_mem_cons] at hzero
    -- the columns are distinct, so placing one width leaves the others at zero
    have hrest : ∀ item ∈ placed, (widths.set first.1 first.2)[item.1]? = some 0 := by
      intro item hitem
      have hne : first.1 ≠ item.1 := fun heq =>
        hdistinct.1 (heq ▸ List.mem_map_of_mem hitem)
      rw [List.getElem?_set_ne hne, hzero.2 item hitem]
    rw [place, ih hdistinct.2 hrest, sum_set_of_zero hzero.1, List.map_cons, List.sum_cons,
      add_assoc]

/-! ## Shares of columns -/

section

variable (lengths long : List Int)

/-- The length of a column. -/
def lengthAt (i : Int) : Int :=
  lengths.getD i.toNat 0

/-- The share of a column among those listed, before the shares are fitted into the space. -/
def shareAt (i : Int) : Rat :=
  clampedShare (spaceFor lengths.length) (long.map (lengthAt lengths)).sum long.length
    (lengthAt lengths i)

/-- What the shares of the listed columns come to. -/
def demand : Rat :=
  (long.map (shareAt lengths long)).sum

/-- The share of a column after the shares are fitted into the space. -/
def fittedAt (i : Int) : Rat :=
  fitted (spaceFor lengths.length) (demand lengths long) long.length (shareAt lengths long i)

/-- The width that a listed column gets, in hundredths. -/
def widthAt (i : Int) : Nat :=
  floorHundredths (fittedAt lengths long i)

/-- What is placed at the listed columns. -/
def placements : List (Nat × Nat) :=
  if 0 < spaceFor lengths.length then long.map fun i => (i.toNat, widthAt lengths long i) else []

end

section

variable {lengths long : List Int}

/-- Widths in a closed form: those of the listed columns, and none elsewhere. -/
theorem widthsOver_eq (hlong : ∀ i ∈ long, 0 ≤ i ∧ i < lengths.length) :
    widthsOver Rat lengths long =
      .ok (place (List.replicate lengths.length 0) (placements lengths long)) := by
  rw [widthsOver, available_eq, placements]
  dsimp only
  have hbelow : below (whole 0) (spaceFor lengths.length) =
      decide (0 < spaceFor lengths.length) := by
    show decide (((0 : Int) : Rat) < _) = _
    rw [Int.cast_zero]
  rw [hbelow]
  by_cases hspace : 0 < spaceFor lengths.length
  · rw [if_pos hspace, decide_eq_true hspace, Bool.not_true, Bool.or_false]
    cases long with
    | nil => rfl
    | cons first rest =>
      rw [List.isEmpty_cons, if_neg Bool.false_ne_true, itemsAt_eq hlong]
      simp only [bind, Except.bind]
      have hcount : 0 < (first :: rest).length := Nat.succ_pos _
      generalize first :: rest = long at hcount
      have hlengths : (long.map fun i => (i.toNat, lengths.getD i.toNat 0)).map (·.2) =
          long.map (lengthAt lengths) := by
        rw [List.map_map]
        rfl
      have htotal : (long.map fun i => (i.toNat, lengths.getD i.toNat 0)).foldr (·.2 + ·) 0 =
          (long.map (lengthAt lengths)).sum := by
        rw [List.foldr_map, ← hlengths, List.sum_eq_foldr, List.foldr_map, List.foldr_map]
      rw [hlengths, htotal, List.length_map, mapM_share?_eq _ _ hcount, Option.bind_some,
        fit?_eq hspace]
      -- each share is computed from the length of its column, as in the closed form
      have hshares : (long.map (lengthAt lengths)).map
          (clampedShare (spaceFor lengths.length) (long.map (lengthAt lengths)).sum long.length) =
            long.map (shareAt lengths long) := by
        rw [List.map_map]
        rfl
      dsimp only
      rw [hshares, ← demand, List.length_map, List.map_map, List.map_map, List.map_map,
        List.zip_map']
      rfl
  · rw [if_neg hspace, decide_eq_false hspace, Bool.not_false, Bool.or_true, if_pos rfl]
    rfl

/-- A share that was fitted is no less than zero and at most eight tenths, and a tenth if the tenths
fit. -/
theorem fittedAt_bounds (hspace : 0 < spaceFor lengths.length) (long : List Int) (i : Int) :
    0 ≤ fittedAt lengths long i ∧ fittedAt lengths long i ≤ 80 / 100 ∧
      (10 / 100 * (long.length : Rat) ≤ spaceFor lengths.length →
        10 / 100 ≤ fittedAt lengths long i) := by
  obtain ⟨hfloor, hceiling⟩ := clampedShare_bounds (spaceFor lengths.length)
    (long.map (lengthAt lengths)).sum long.length (lengthAt lengths i)
  obtain ⟨hnonneg, hle, hfloors⟩ := fitted_bounds hspace (demand lengths long) long.length hfloor
  exact ⟨hnonneg, hle.trans hceiling, hfloors⟩

/-- The fitted shares come to what is demanded, or to the space if this is less. -/
theorem sum_fittedAt (hspace : 0 < spaceFor lengths.length) :
    (long.map (fittedAt lengths long)).sum =
      min (demand lengths long) (spaceFor lengths.length) := by
  have h := sum_fitted hspace (long.map (shareAt lengths long))
  rw [List.map_map, List.length_map] at h
  exact h

/-- The columns at which widths are placed are distinct if those listed are. -/
theorem nodup_placements (hlong : ∀ i ∈ long, 0 ≤ i ∧ i < lengths.length)
    (hdistinct : long.Nodup) : ((placements lengths long).map Prod.fst).Nodup := by
  rw [placements]
  split
  · rw [List.map_map]
    refine hdistinct.map_on fun i hi j hj heq => ?_
    have hi := hlong i hi
    have hj := hlong j hj
    simp only [Function.comp_apply] at heq
    omega
  · exact List.nodup_nil

/-- The widths that are placed are those of the listed columns. -/
theorem mem_placements (hspace : 0 < spaceFor lengths.length) {long : List Int}
    {item : Nat × Nat} :
    item ∈ placements lengths long ↔ ∃ i ∈ long, (i.toNat, widthAt lengths long i) = item := by
  rw [placements, if_pos hspace, List.mem_map]

/-! ## The widths -/

/-- What the widths of columns are to be, where some columns are listed: -/
structure Allocated (lengths long : List Int) (widths : List Nat) : Prop where
  /-- there is one for each column, -/
  length : widths.length = lengths.length
  /-- none for a column that is not listed, -/
  unlisted : ∀ column < lengths.length, (column : Int) ∉ long → widths[column]? = some 0
  /-- at most eight tenths for any, -/
  atMost : ∀ width ∈ widths, portion width ≤ 80 / 100
  /-- a tenth or more for each that is listed, if so much is there, -/
  atLeast : 10 / 100 * (long.length : Rat) ≤ spaceFor lengths.length →
    ∀ i ∈ long, ∃ width, widths[i.toNat]? = some width ∧ 10 / 100 ≤ portion width
  /-- together no more than the space, -/
  fits : 0 < spaceFor lengths.length →
    (widths.map portion).sum ≤ spaceFor lengths.length
  /-- which they fill up to a hundredth for each listed column, if the shares exceeded it, -/
  fills : spaceFor lengths.length < demand lengths long →
    spaceFor lengths.length - 1 / 100 * long.length < (widths.map portion).sum
  /-- and none at all if there is no space. -/
  noSpace : spaceFor lengths.length ≤ 0 → ∀ width ∈ widths, width = 0

theorem getElem?_replicate_zero {n column : Nat} (h : column < n) :
    (List.replicate n 0)[column]? = some 0 := by
  rw [List.getElem?_replicate, if_pos h]

theorem sum_portion_replicate (n : Nat) : ((List.replicate n 0).map portion).sum = 0 := by
  rw [List.map_replicate, List.sum_replicate, portion, Nat.cast_zero, zero_div, smul_zero]

/-- Widths of columns for which there is space. -/
theorem allocated_of_space (hspace : 0 < spaceFor lengths.length)
    (hlong : ∀ i ∈ long, 0 ≤ i ∧ i < lengths.length) (hdistinct : long.Nodup) :
    Allocated lengths long
      (place (List.replicate lengths.length 0) (placements lengths long)) := by
  have hnodup := nodup_placements hlong hdistinct
  have hcolumn : ∀ item ∈ placements lengths long, item.1 < lengths.length := by
    intro item hitem
    obtain ⟨i, hi, rfl⟩ := (mem_placements hspace).1 hitem
    have := hlong i hi
    dsimp only
    omega
  have hsum : ((place (List.replicate lengths.length 0) (placements lengths long)).map
      portion).sum = ((long.map (fittedAt lengths long)).map fun share =>
        portion (floorHundredths share)).sum := by
    rw [sum_place hnodup fun item hitem => getElem?_replicate_zero (hcolumn item hitem),
      sum_portion_replicate, zero_add, placements, if_pos hspace, List.map_map, List.map_map]
    rfl
  have hnonneg : ∀ share ∈ long.map (fittedAt lengths long), 0 ≤ share := by
    intro share hshare
    obtain ⟨i, -, rfl⟩ := List.mem_map.1 hshare
    exact (fittedAt_bounds hspace long i).1
  obtain ⟨hle, hlt⟩ := sum_floorHundredths hnonneg
  rw [sum_fittedAt hspace] at hle hlt
  exact {
    length := by rw [length_place, List.length_replicate]
    unlisted := by
      intro column hcolumn hnot
      rw [getElem?_place_of_not_mem, getElem?_replicate_zero hcolumn]
      intro hmem
      obtain ⟨item, hitem, rfl⟩ := List.mem_map.1 hmem
      obtain ⟨i, hi, rfl⟩ := (mem_placements hspace).1 hitem
      dsimp only at hnot
      rw [Int.toNat_of_nonneg (hlong i hi).1] at hnot
      exact hnot hi
    atMost := by
      intro width hwidth
      rcases mem_place hwidth with hwidth | hwidth
      · rw [List.eq_of_mem_replicate hwidth, portion]
        norm_num
      · obtain ⟨item, hitem, rfl⟩ := List.mem_map.1 hwidth
        obtain ⟨i, -, rfl⟩ := (mem_placements hspace).1 hitem
        obtain ⟨hfitted, hceiling, -⟩ := fittedAt_bounds hspace long i
        exact (portion_floorHundredths hfitted).1.trans hceiling
    atLeast := by
      intro hfloors i hi
      have hitem : (i.toNat, widthAt lengths long i) ∈ placements lengths long :=
        (mem_placements hspace).2 ⟨i, hi, rfl⟩
      refine ⟨_, getElem?_place hnodup hitem ?_, ?_⟩
      · rw [List.length_replicate]
        exact hcolumn _ hitem
      · have hten : 10 ≤ widthAt lengths long i :=
          le_floorHundredths ((fittedAt_bounds hspace long i).2.2 hfloors)
        have hcast : ((10 : Nat) : Rat) ≤ (widthAt lengths long i : Rat) := Nat.cast_le.2 hten
        rw [portion]
        push_cast at hcast
        linarith
    fits := fun _ => by
      rw [hsum]
      exact hle.trans (min_le_right _ _)
    fills := by
      intro hdemand
      rw [hsum]
      rw [min_eq_right hdemand.le, List.length_map] at hlt
      refine hlt fun hnil => ?_
      -- without a listed column nothing is asked for
      rw [List.map_eq_nil_iff] at hnil
      subst hnil
      exact lt_asymm hspace hdemand
    noSpace := fun hnone => absurd hspace (not_lt.2 hnone) }

/-- Where the gaps take up all the width, no column gets any. -/
theorem allocated_of_no_space (hspace : spaceFor lengths.length ≤ 0) :
    Allocated lengths long (List.replicate lengths.length 0) := by
  have hzero : ∀ width ∈ List.replicate lengths.length 0, width = 0 :=
    fun width => List.eq_of_mem_replicate
  exact {
    length := List.length_replicate
    unlisted := fun column hcolumn _ => getElem?_replicate_zero hcolumn
    atMost := by
      intro width hwidth
      rw [hzero width hwidth, portion]
      norm_num
    atLeast := by
      intro hfloors i hi
      have hpos : 0 < (long.length : Rat) := Nat.cast_pos.2 (List.length_pos_of_mem hi)
      -- tenths of the listed columns do not fit into no space
      linarith
    fits := fun hpos => absurd hpos (not_lt.2 hspace)
    fills := by
      intro hdemand
      rw [sum_portion_replicate]
      cases long with
      | nil => exact (sub_le_self _ (by simp)).trans_lt hdemand
      | cons i rest =>
        rw [List.length_cons]
        push_cast
        have hrest : (0 : Rat) ≤ rest.length := Nat.cast_nonneg _
        linarith
    noSpace := fun _ => hzero }

/-- **Exact widths keep their bounds.** -/
theorem exists_allocated (hlong : ∀ i ∈ long, 0 ≤ i ∧ i < lengths.length)
    (hdistinct : long.Nodup) :
    ∃ widths, widthsOver Rat lengths long = .ok widths ∧ Allocated lengths long widths := by
  refine ⟨_, widthsOver_eq hlong, ?_⟩
  rcases lt_or_ge 0 (spaceFor lengths.length) with hspace | hspace
  · exact allocated_of_space hspace hlong hdistinct
  · rw [placements, if_neg (not_lt.2 hspace), place]
    exact allocated_of_no_space hspace

/-- Two short columns are raised to a tenth, and the long one gives way to them. -/
theorem exists_allocated_raised :
    (∀ i ∈ [2, 0, 1], 0 ≤ i ∧ i < ([100, 5, 5] : List Int).length) ∧ ([2, 0, 1] : List Int).Nodup ∧
      ∃ widths, widthsOver Rat [100, 5, 5] [2, 0, 1] = .ok widths ∧
        Allocated [100, 5, 5] [2, 0, 1] widths :=
  ⟨by decide, by decide, exists_allocated (by decide) (by decide)⟩

example : (widthsOver Rat [100, 5, 5] [2, 0, 1]).toOption = some [71, 10, 10] := by
  decide +kernel

end

end MarkTex.Table
