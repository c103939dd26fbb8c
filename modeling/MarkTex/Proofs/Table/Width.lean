import Mathlib.Algebra.Order.Ring.Rat
import Mathlib.Algebra.Order.Group.Defs
import MarkTex.Proofs.Number.Double
import MarkTex.Table.Width

/-!
# Widths are always allocated

Lengths that are not negative, and columns that exist, are given widths, whatever the numbers are
that the shares are computed with: no quotient is missing (`exists_widthsOver`). What this takes of
the numbers are a few laws (`LawfulFraction`), which doubles have as well as exact fractions.
-/

namespace MarkTex.Table

open Fraction

/-! ## Laws of numbers -/

/-- The laws of numbers that let shares be computed: the quotients that are asked for exist. -/
class LawfulFraction (α : Type) [Fraction α] : Prop where
  /-- A part of a whole has a ratio to it. -/
  ratio?_isSome : ∀ {n d : Int}, 0 ≤ n → n ≤ d → 0 < d → (ratio? n d : Option α).isSome = true
  /-- What is above a positive number can be divided by. -/
  quotient?_isSome : ∀ {x y z : α}, below (whole 0) z = true → below z y = true →
    (quotient? x y).isSome = true
  /-- The difference of two numbers can be divided by if something is below the one and not below
  the other. -/
  quotient?_sub_isSome : ∀ {x y z w : α}, below z y = true → below z w = false →
    (quotient? x (y - w)).isSome = true

instance : LawfulFraction Rat where
  ratio?_isSome := by
    intro n d _ _ hd
    show (if d = 0 then none else some ((n : Rat) / d)).isSome = true
    rw [if_neg (Int.ne_of_gt hd)]
    rfl
  quotient?_isSome := by
    intro x y z hpos hlt
    have hz : ((0 : Int) : Rat) < z := of_decide_eq_true hpos
    have hy : (0 : Rat) < y := lt_trans hz (of_decide_eq_true hlt)
    show (if y = 0 then none else some (x / y)).isSome = true
    rw [if_neg (ne_of_gt hy)]
    rfl
  quotient?_sub_isSome := by
    intro x y z w hlt hnot
    have hlt : z < y := of_decide_eq_true hlt
    have hw : w ≤ z := not_lt.1 (of_decide_eq_false hnot)
    show (if y - w = 0 then none else some (x / (y - w))).isSome = true
    rw [if_neg (ne_of_gt (sub_pos.2 (lt_of_le_of_lt hw hlt)))]
    rfl

instance : LawfulFraction Float where
  ratio?_isSome := by
    intro n d hn hle hd
    have hbound : 2 ≤ infinityBound := by decide +kernel
    have hmul : 2 * d.natAbs ≤ infinityBound * d.natAbs := Nat.mul_le_mul_right _ hbound
    show (if d = 0 ∨ infinityBound * d.natAbs ≤ n.natAbs then none
      else some (floatRatio n d)).isSome = true
    rw [if_neg (by omega)]
    rfl
  quotient?_isSome := by
    intro x y z hpos hlt
    have hy := Number.Double.ne_zero_of_lt (of_decide_eq_true hpos) (of_decide_eq_true hlt)
    show (if (y == 0.0) = true then none else some (x / y)).isSome = true
    rw [if_neg (Bool.eq_false_iff.1 hy)]
    rfl
  quotient?_sub_isSome := by
    intro x y z w hlt hnot
    have hne : ¬ (y - w == 0.0) = true := fun hzero =>
      of_decide_eq_false hnot (Number.Double.lt_of_sub_eq_zero (of_decide_eq_true hlt) hzero)
    show (if (y - w == 0.0) = true then none else some (x / (y - w))).isSome = true
    rw [if_neg hne]
    rfl

/-! ## Shares -/

/-- A list of results is there if each of them is. -/
theorem isSome_mapM {α β : Type} {f : α → Option β} {items : List α}
    (h : ∀ item ∈ items, (f item).isSome = true) : (items.mapM f).isSome = true := by
  induction items with
  | nil => rfl
  | cons item items ih =>
    rw [List.forall_mem_cons] at h
    obtain ⟨value, hvalue⟩ := Option.isSome_iff_exists.1 h.1
    obtain ⟨values, hvalues⟩ := Option.isSome_iff_exists.1 (ih h.2)
    rw [List.mapM_cons, hvalue, hvalues]
    rfl

section

variable {α : Type} [Fraction α] [LawfulFraction α]

/-- The share of a column is there, since its divisor is not zero. -/
theorem isSome_share? (space : α) {total length : Int} {count : Nat} (hlength : 0 ≤ length)
    (hle : length ≤ total) (hcount : 0 < count) :
    (share? space total count length).isSome = true := by
  rw [share?, Option.isSome_map]
  split
  · rename_i htotal
    exact LawfulFraction.ratio?_isSome hlength hle htotal
  · exact LawfulFraction.ratio?_isSome (by decide) (by omega) (by omega)

/-- Shares are cut down only where they exceed the space, so what they exceed it by is there to be
divided by. -/
theorem isSome_fit? {space : α} (hspace : below (whole 0) space = true) (shares : List α) :
    (fit? space shares).isSome = true := by
  rw [fit?]
  dsimp only
  split
  · rename_i hallocated
    split
    · rw [Option.isSome_map]
      exact LawfulFraction.quotient?_isSome hspace hallocated
    · rename_i hfloors
      rw [Option.isSome_map]
      exact LawfulFraction.quotient?_sub_isSome hallocated (Bool.eq_false_iff.2 hfloors)
  · rfl

end

/-! ## Widths -/

/-- The columns that exist are looked up. -/
theorem itemsAt_eq {lengths long : List Int} (h : ∀ i ∈ long, 0 ≤ i ∧ i < lengths.length) :
    itemsAt lengths long = .ok (long.map fun i => (i.toNat, lengths.getD i.toNat 0)) := by
  induction long with
  | nil => rfl
  | cons index long ih =>
    rw [List.forall_mem_cons] at h
    have hposition : position? lengths.length index = some index.toNat := by
      rw [position?, if_neg (Int.not_lt.2 h.1.1)]
      simp [h.1]
    rw [itemsAt, hposition, ih h.2]
    rfl

/-- Placing widths leaves their number. -/
theorem length_place (widths : List Nat) (placed : List (Nat × Nat)) :
    (place widths placed).length = widths.length := by
  induction placed generalizing widths with
  | nil => rfl
  | cons item placed ih => rw [place, ih, List.length_set]

/-- A sum of lengths that are not negative is no less than zero, and than each of them. -/
theorem le_foldr_add {items : List (Nat × Int)} (h : ∀ item ∈ items, 0 ≤ item.2) :
    0 ≤ items.foldr (·.2 + ·) 0 ∧ ∀ item ∈ items, item.2 ≤ items.foldr (·.2 + ·) 0 := by
  induction items with
  | nil => exact ⟨Int.le_refl 0, fun _ hitem => absurd hitem List.not_mem_nil⟩
  | cons first items ih =>
    rw [List.forall_mem_cons] at h
    obtain ⟨hsum, hle⟩ := ih h.2
    rw [List.foldr_cons]
    refine ⟨by omega, fun item hitem => ?_⟩
    rcases List.mem_cons.1 hitem with rfl | hitem
    · omega
    · have := hle item hitem
      omega

/-- **Widths are allocated to all columns**, if no length is negative and the columns that wrap are
there. -/
theorem exists_widthsOver (α : Type) [Fraction α] [LawfulFraction α] {lengths long : List Int}
    (hlengths : ∀ length ∈ lengths, 0 ≤ length)
    (hlong : ∀ i ∈ long, 0 ≤ i ∧ i < lengths.length) :
    ∃ widths, widthsOver α lengths long = .ok widths ∧ widths.length = lengths.length := by
  have hnone : (List.replicate lengths.length 0).length = lengths.length := List.length_replicate
  rw [widthsOver]
  dsimp only
  split
  · exact ⟨_, rfl, hnone⟩
  rename_i hspace
  rw [Bool.or_eq_true, not_or, Bool.not_eq_true, Bool.not_eq_true, Bool.not_eq_false'] at hspace
  obtain ⟨hlong', hspace⟩ := hspace
  rw [itemsAt_eq hlong]
  let chosen := long.map fun i => (i.toNat, lengths.getD i.toNat 0)
  have hchosen : ∀ item ∈ chosen, 0 ≤ item.2 := by
    intro item hitem
    obtain ⟨i, hi, rfl⟩ := List.mem_map.1 hitem
    have hbound := hlong i hi
    show 0 ≤ lengths.getD i.toNat 0
    rw [List.getD_eq_getElem?_getD, List.getElem?_eq_getElem (by omega), Option.getD_some]
    exact hlengths _ (List.getElem_mem _)
  have hcount : 0 < chosen.length := by
    rw [List.length_map]
    exact List.length_pos_iff.2 (List.isEmpty_eq_false_iff.1 hlong')
  have hshares : ((chosen.map (·.2)).mapM
      (share? (available lengths.length : α) (chosen.foldr (·.2 + ·) 0) chosen.length)).isSome =
        true := by
    -- the total is no less than each length, so it is zero only if all are
    refine isSome_mapM fun length hlength => ?_
    obtain ⟨item, hitem, rfl⟩ := List.mem_map.1 hlength
    exact isSome_share? _ (hchosen item hitem) ((le_foldr_add hchosen).2 item hitem) hcount
  obtain ⟨shares, hshares⟩ := Option.isSome_iff_exists.1 hshares
  obtain ⟨fitting, hfitting⟩ := Option.isSome_iff_exists.1 (isSome_fit? hspace shares)
  simp only [bind, Except.bind]
  rw [hshares, Option.bind_some, hfitting]
  exact ⟨_, rfl, (length_place _ _).trans hnone⟩

end MarkTex.Table
