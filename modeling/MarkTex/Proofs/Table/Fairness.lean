import Mathlib.Logic.Equiv.Basic
import MarkTex.Proofs.Table.Allocation

/-!
# Widths are shared out fairly

Over exact fractions, a column that wraps gets no less than one that is shorter, and a width belongs
to its column: when the columns of a table change places, and are listed in whatever order, their
widths change places with them (`fair_widthsOver`).

## Shape of the proof

Each step from a length to a width keeps the order: the part of the total, the share held between
its bounds, the share cut down, and the hundredths. Besides its own length, the width of a column
depends on sums over the listed columns only, and these do not change with the order.
-/

namespace MarkTex.Table

open Fraction

/-! ## The order of widths -/

/-- A longer column has no less of the total. -/
theorem partOf_mono {total length other : Int} (count : Nat) (h : length ≤ other) :
    partOf total count length ≤ partOf total count other := by
  rw [partOf, partOf]
  split
  · rename_i htotal
    have hlength : (length : Rat) ≤ other := Int.cast_le.2 h
    exact div_le_div_of_nonneg_right hlength (Int.cast_nonneg htotal.le)
  · exact le_refl _

/-- A longer column has no less of a share. -/
theorem clampedShare_mono {space : Rat} (hspace : 0 ≤ space) {total length other : Int}
    (count : Nat) (h : length ≤ other) :
    clampedShare space total count length ≤ clampedShare space total count other := by
  have hpart : partOf total count length ≤ partOf total count other := partOf_mono count h
  have hshare := mul_le_mul_of_nonneg_left hpart hspace
  exact min_le_min_right _ (max_le_max_right _ hshare)

/-- Shares are cut down by factors that are not negative. -/
theorem fitted_mono {space share other : Rat} (hspace : 0 ≤ space) (allocated : Rat) (count : Nat)
    (h : share ≤ other) :
    fitted space allocated count share ≤ fitted space allocated count other := by
  rw [fitted, fitted]
  split
  · rename_i hallocated
    split
    · have hscale : 0 ≤ space / allocated := div_nonneg hspace (hspace.trans hallocated.le)
      exact mul_le_mul_of_nonneg_right h hscale
    · rename_i hfloors
      have hscale : 0 ≤ (space - 10 / 100 * count) / (allocated - 10 / 100 * count) :=
        div_nonneg (by linarith) (by linarith)
      have habove := mul_le_mul_of_nonneg_right (sub_le_sub_right h (10 / 100)) hscale
      linarith
  · exact h

/-- More of the space is no fewer hundredths. -/
theorem floorHundredths_mono {x y : Rat} (hx : 0 ≤ x) (h : x ≤ y) :
    floorHundredths x ≤ floorHundredths y :=
  le_floorHundredths ((portion_floorHundredths hx).1.trans h)

/-- The width of a column that wraps does not fall when its length grows. -/
theorem widthAt_mono {lengths long : List Int} (hspace : 0 < spaceFor lengths.length) {i j : Int}
    (h : lengthAt lengths i ≤ lengthAt lengths j) :
    widthAt lengths long i ≤ widthAt lengths long j := by
  have hshare : shareAt lengths long i ≤ shareAt lengths long j :=
    clampedShare_mono hspace.le _ h
  exact floorHundredths_mono (fittedAt_bounds hspace long i).1
    (fitted_mono hspace.le _ _ hshare)

/-! ## The widths of numbered columns -/

section

variable {n : Nat} (lengths : Fin n → Int) (long : List (Fin n))

/-- Columns as they are listed. -/
def listed (columns : List (Fin n)) : List Int :=
  columns.map fun column => (column.val : Int)

/-- The width of each column. -/
def allotted (column : Fin n) : Nat :=
  if 0 < spaceFor n ∧ column ∈ long then
    widthAt (List.ofFn lengths) (listed long) column.val
  else 0

variable {lengths long}

/-- A listed column is one of the table. -/
theorem inRange_of_mem_listed {columns : List (Fin n)} : ∀ i ∈ listed columns, 0 ≤ i ∧ i < n := by
  intro i hi
  obtain ⟨column, -, rfl⟩ := List.mem_map.1 hi
  omega

/-- The length that is looked up is that of the column. -/
theorem lengthAt_ofFn (column : Fin n) :
    lengthAt (List.ofFn lengths) column.val = lengths column := by
  simp [lengthAt, List.getD_eq_getElem?_getD]

/-- Each column has the width that is allotted to it. -/
theorem getElem?_placements (column : Fin n) :
    (place (List.replicate n 0) (placements (List.ofFn lengths) (listed long)))[column.val]? =
      some (allotted lengths long column) := by
  have hzero : (List.replicate n 0)[column.val]? = some 0 := getElem?_replicate_zero column.isLt
  rw [placements, allotted, List.length_ofFn]
  by_cases hspace : 0 < spaceFor n
  · -- a column is placed if it is listed, and all its entries place the same width
    have hmem : column.val ∈ ((listed long).map fun i =>
        (i.toNat, widthAt (List.ofFn lengths) (listed long) i)).map Prod.fst ↔ column ∈ long := by
      simp [listed, Fin.val_inj]
    simp only [hspace, if_true, true_and]
    split
    · rename_i hlong
      apply getElem?_place_of_same (hmem.2 hlong)
      · intro item hitem heq
        obtain ⟨i, hi, rfl⟩ := List.mem_map.1 hitem
        rw [← heq, Int.toNat_of_nonneg (inRange_of_mem_listed i hi).1]
      · rw [List.length_replicate]
        exact column.isLt
    · rename_i hlong
      rw [getElem?_place_of_not_mem (mt hmem.1 hlong), hzero]
  · simp only [hspace, if_false, false_and, place, hzero]

/-- The widths of numbered columns, one by one. -/
theorem widthsOver_ofFn :
    widthsOver Rat (List.ofFn lengths) (listed long) = .ok (List.ofFn (allotted lengths long)) := by
  have hlong : ∀ i ∈ listed long, 0 ≤ i ∧ i < (List.ofFn lengths).length := by
    simpa using inRange_of_mem_listed
  rw [widthsOver_eq hlong, List.length_ofFn]
  refine congrArg Except.ok (List.ext_getElem? fun column => ?_)
  by_cases hcolumn : column < n
  · rw [getElem?_placements ⟨column, hcolumn⟩, List.getElem?_ofFn, dif_pos hcolumn]
  · rw [List.getElem?_eq_none, List.getElem?_eq_none]
    · rw [List.length_ofFn]
      omega
    · rw [length_place, List.length_replicate]
      omega

/-! ## Columns that change places -/

section

variable (σ : Equiv.Perm (Fin n)) {others : List (Fin n)} (hothers : others.Perm (long.map σ))

include hothers

/-- A sum over listed columns is taken over the same columns after they change places. -/
theorem sum_listed_perm {α : Type} [AddCommMonoid α] {f g : Int → α}
    (h : ∀ column : Fin n, g (σ column).val = f column.val) :
    ((listed others).map g).sum = ((listed long).map f).sum := by
  have hsum := ((hothers.map fun column => (column.val : Int)).map g).sum_eq
  rw [listed, listed, hsum, List.map_map, List.map_map, List.map_map]
  exact congrArg List.sum (List.map_congr_left fun column _ => h column)

/-- The width of a column stays its own when the columns change places. -/
theorem widthAt_perm (column : Fin n) :
    widthAt (List.ofFn (lengths ∘ σ.symm)) (listed others) (σ column).val =
      widthAt (List.ofFn lengths) (listed long) column.val := by
  have hlength : ∀ column : Fin n, lengthAt (List.ofFn (lengths ∘ σ.symm)) (σ column).val =
      lengthAt (List.ofFn lengths) column.val := by
    intro column
    rw [lengthAt_ofFn, lengthAt_ofFn, Function.comp_apply, Equiv.symm_apply_apply]
  have hcount : (listed others).length = (listed long).length := by
    simp [listed, hothers.length_eq]
  -- a share depends on the own length and on the sum over all that are listed
  have hshare : ∀ column : Fin n,
      shareAt (List.ofFn (lengths ∘ σ.symm)) (listed others) (σ column).val =
        shareAt (List.ofFn lengths) (listed long) column.val := by
    intro column
    rw [shareAt, shareAt, sum_listed_perm σ hothers hlength, hcount, hlength, List.length_ofFn,
      List.length_ofFn]
  have hdemand : demand (List.ofFn (lengths ∘ σ.symm)) (listed others) =
      demand (List.ofFn lengths) (listed long) := sum_listed_perm σ hothers hshare
  rw [widthAt, widthAt, fittedAt, fittedAt, hdemand, hcount, hshare, List.length_ofFn,
    List.length_ofFn]

/-- What is allotted changes places with the columns. -/
theorem allotted_perm :
    allotted (lengths ∘ σ.symm) others = allotted lengths long ∘ σ.symm := by
  funext column
  obtain ⟨column, rfl⟩ := σ.surjective column
  have hmem : σ column ∈ others ↔ column ∈ long := by
    rw [hothers.mem_iff, List.mem_map_of_injective σ.injective]
  rw [Function.comp_apply, Equiv.symm_apply_apply, allotted, allotted, widthAt_perm σ hothers]
  simp only [hmem]

end

end

/-- **Widths are shared out fairly.** Whatever the lengths of the columns are and whichever of them
wrap, each column is given a width, a column that wraps gets no less than a shorter one, and when
the columns change places, in whatever order they are listed, their widths change places with
them. -/
theorem fair_widthsOver (lengths : List Int) (long : List (Fin lengths.length)) :
    ∃ widths : Fin lengths.length → Nat,
      widthsOver Rat lengths (listed long) = .ok (List.ofFn widths) ∧
      (∀ i ∈ long, ∀ j ∈ long, lengths[i] ≤ lengths[j] → widths i ≤ widths j) ∧
      ∀ (σ : Equiv.Perm (Fin lengths.length)) (others : List (Fin lengths.length)),
        others.Perm (long.map σ) →
          widthsOver Rat (List.ofFn (lengths.get ∘ σ.symm)) (listed others) =
            .ok (List.ofFn (widths ∘ σ.symm)) := by
  have hwidths : widthsOver Rat (List.ofFn lengths.get) (listed long) =
      .ok (List.ofFn (allotted lengths.get long)) := widthsOver_ofFn
  rw [List.ofFn_get] at hwidths
  refine ⟨allotted lengths.get long, hwidths, ?_, ?_⟩
  · intro i hi j hj hle
    rw [allotted, allotted]
    simp only [hi, hj, and_true]
    -- without space there are no widths to compare
    split
    · rename_i hspace
      apply widthAt_mono
      · rwa [List.length_ofFn]
      · rwa [lengthAt_ofFn, lengthAt_ofFn]
    · exact le_refl 0
  · intro σ others hothers
    rw [widthsOver_ofFn, allotted_perm σ hothers]

/-- Two columns that wrap change places, and are listed in the other order. -/
theorem fair_widthsOver_swapped :
    ∃ widths : Fin 3 → Nat,
      widthsOver Rat [5, 100, 30] [0, 1] = .ok (List.ofFn widths) ∧ widths 0 ≤ widths 1 ∧
        widthsOver Rat [100, 5, 30] [0, 1] = .ok (List.ofFn (widths ∘ Equiv.swap 0 1)) := by
  obtain ⟨widths, hwidths, hmono, hperm⟩ := fair_widthsOver [5, 100, 30] [(0 : Fin 3), (1 : Fin 3)]
  have hlengths : List.ofFn (([5, 100, 30] : List Int).get ∘ (Equiv.swap (0 : Fin 3) 1).symm) =
      [100, 5, 30] := by
    decide
  have hswapped := hperm (Equiv.swap (0 : Fin 3) 1) [(0 : Fin 3), (1 : Fin 3)] (by decide)
  rw [hlengths] at hswapped
  exact ⟨widths, hwidths, hmono 0 (by decide) 1 (by decide) (by decide), hswapped⟩

end MarkTex.Table
