import MarkTex.Proofs.Table.Width

/-!
# Shares in exact fractions

Over exact fractions the allocation of widths has a closed form: a share in proportion, held between
a tenth and eight tenths (`clampedShare`), and cut down where the shares exceed the space together
(`fitted`). Fitting leaves a share between zero and what it was, above the tenth if the tenths fit
(`fitted_bounds`), and what is left comes to just the space (`sum_fitted`).

Rounding down to hundredths takes less than a hundredth of every share (`portion_floorHundredths`).
-/

namespace MarkTex.Table

open Fraction

/-! ## The closed form -/

/-- The part of the text width that `n` columns share: all but a twentieth for the margin and a
fiftieth for each gap between two columns. -/
def spaceFor (n : Nat) : Rat :=
  95 / 100 - 2 / 100 * (n - 1)

/-- What part of the total length of `count` columns a length is. Columns without any length are
equal parts. -/
def partOf (total : Int) (count : Nat) (length : Int) : Rat :=
  if 0 < total then length / total else 1 / count

/-- The share of a column: in proportion to its length, but at least a tenth and at most eight
tenths. -/
def clampedShare (space : Rat) (total : Int) (count : Nat) (length : Int) : Rat :=
  min (max (space * partOf total count length) (10 / 100)) (80 / 100)

/-- What is left of one of `count` shares that come to `allocated` together. If this exceeds the
space, what a share has above a tenth is scaled or, where even the tenths exceed the space, the
share as a whole. -/
def fitted (space allocated : Rat) (count : Nat) (share : Rat) : Rat :=
  if space < allocated then
    if space < 10 / 100 * count then share * (space / allocated)
    else 10 / 100 + (share - 10 / 100) *
      ((space - 10 / 100 * count) / (allocated - 10 / 100 * count))
  else share

/-- A width in hundredths, as a part of the text width. -/
def portion (width : Nat) : Rat :=
  width / 100

/-- The space that is available, in exact fractions. -/
theorem available_eq (n : Nat) : (available n : Rat) = spaceFor n := by
  show ((100 : Nat) : Rat) / 100 - ((5 : Nat) : Rat) / 100 -
    ((2 : Nat) : Rat) / 100 * (((n : Int) - 1 : Int) : Rat) = _
  rw [spaceFor]
  push_cast
  ring

/-- A share is held between a tenth and eight tenths. -/
theorem clamp_eq (x : Rat) : clamp x = min (max x (10 / 100)) (80 / 100) := by
  rw [max_def_lt, min_comm, min_def_lt]
  show (if decide ((80 : Rat) / 100 < if decide (x < (10 : Rat) / 100) = true then 10 / 100 else x) =
      true then (80 : Rat) / 100
    else if decide (x < (10 : Rat) / 100) = true then 10 / 100 else x) = _
  simp only [decide_eq_true_eq]

/-- The ratio of a length to the total exists, or that of one to the number of columns. -/
theorem share?_eq (space : Rat) (total : Int) {count : Nat} (hcount : 0 < count) (length : Int) :
    share? space total count length = some (clampedShare space total count length) := by
  have hpart : (if 0 < total then ratio? length total else ratio? 1 count : Option Rat) =
      some (partOf total count length) := by
    rw [partOf]
    split
    · rename_i htotal
      show (if total = 0 then none else some ((length : Rat) / total)) = _
      rw [if_neg (Int.ne_of_gt htotal)]
    · show (if (count : Int) = 0 then none else some (((1 : Int) : Rat) / (count : Int))) = _
      rw [if_neg (by omega), Int.cast_one, Int.cast_natCast]
  rw [share?, hpart, Option.map_some, clamp_eq]
  rfl

/-- Over exact fractions every share is computed. -/
theorem mapM_share?_eq (space : Rat) (total : Int) {count : Nat} (hcount : 0 < count)
    (lengths : List Int) :
    lengths.mapM (share? space total count) =
      some (lengths.map (clampedShare space total count)) := by
  induction lengths with
  | nil => rfl
  | cons length lengths ih =>
    rw [List.mapM_cons, share?_eq space total hcount, ih]
    rfl

/-- The shares are summed up exactly. -/
theorem sumShares_eq (shares : List Rat) : sumShares shares = shares.sum := by
  rw [sumShares, List.sum_eq_foldl]
  rfl

/-- Shares are cut down by quotients that exist. -/
theorem fit?_eq {space : Rat} (hspace : 0 < space) (shares : List Rat) :
    fit? space shares = some (shares.map (fitted space shares.sum shares.length)) := by
  have hfloors : (floorShare : Rat) * whole shares.length = 10 / 100 * shares.length := by
    show ((10 : Nat) : Rat) / 100 * ((shares.length : Int) : Rat) = _
    push_cast
    rfl
  rw [fit?, sumShares_eq]
  dsimp only
  rw [hfloors]
  show (if decide (space < shares.sum) = true then
      if decide (space < 10 / 100 * (shares.length : Rat)) = true then
        (if shares.sum = 0 then none else some (space / shares.sum)).map fun scale =>
          shares.map (· * scale)
      else
        (if shares.sum - 10 / 100 * (shares.length : Rat) = 0 then none
          else some ((space - 10 / 100 * (shares.length : Rat)) /
            (shares.sum - 10 / 100 * (shares.length : Rat)))).map fun scale =>
          shares.map fun share => 10 / 100 + (share - 10 / 100) * scale
    else some shares) = _
  by_cases hallocated : space < shares.sum
  · rw [if_pos (decide_eq_true hallocated)]
    by_cases hfew : space < 10 / 100 * (shares.length : Rat)
    · -- the shares exceed a space above zero, so their sum is above zero too
      have hne : shares.sum ≠ 0 := (hspace.trans hallocated).ne'
      rw [if_pos (decide_eq_true hfew), if_neg hne, Option.map_some]
      refine congrArg some (List.map_congr_left fun share _ => ?_)
      rw [fitted, if_pos hallocated, if_pos hfew]
    · -- the tenths fit and the shares do not, so something is above the tenths
      have hne : shares.sum - 10 / 100 * (shares.length : Rat) ≠ 0 :=
        (sub_pos.2 (lt_of_le_of_lt (not_lt.1 hfew) hallocated)).ne'
      rw [if_neg (by simpa using hfew), if_neg hne, Option.map_some]
      refine congrArg some (List.map_congr_left fun share _ => ?_)
      rw [fitted, if_pos hallocated, if_neg hfew]
  · rw [if_neg (by simpa using hallocated)]
    refine congrArg some (Eq.symm (List.map_id'' (fun share => ?_) shares))
    rw [fitted, if_neg hallocated]

/-! ## Bounds -/

/-- A share that is held is between a tenth and eight tenths. -/
theorem clampedShare_bounds (space : Rat) (total : Int) (count : Nat) (length : Int) :
    10 / 100 ≤ clampedShare space total count length ∧
      clampedShare space total count length ≤ 80 / 100 := by
  refine ⟨le_min (le_max_right _ _) (by norm_num), min_le_right _ _⟩

/-- Fitting takes from a share, and nothing of the tenth that it has at least if all tenths fit. -/
theorem fitted_bounds {space share : Rat} (hspace : 0 < space) (allocated : Rat) (count : Nat)
    (hshare : 10 / 100 ≤ share) :
    0 ≤ fitted space allocated count share ∧ fitted space allocated count share ≤ share ∧
      (10 / 100 * count ≤ space → 10 / 100 ≤ fitted space allocated count share) := by
  rw [fitted]
  split
  · rename_i hallocated
    have hpos : 0 < allocated := hspace.trans hallocated
    split
    · rename_i hfew
      have hscale : 0 ≤ space / allocated := (div_pos hspace hpos).le
      -- the shares exceed the space, so they are scaled down
      have hscale' : space / allocated ≤ 1 := (div_le_one hpos).2 hallocated.le
      refine ⟨mul_nonneg (by linarith) hscale, mul_le_of_le_one_right (by linarith) hscale', ?_⟩
      exact fun hfloors => absurd hfew (not_lt.2 hfloors)
    · rename_i hfloors
      rw [not_lt] at hfloors
      have hpos' : 0 < allocated - 10 / 100 * count := by linarith
      have hscale : 0 ≤ (space - 10 / 100 * count) / (allocated - 10 / 100 * count) :=
        div_nonneg (by linarith) hpos'.le
      have hscale' : (space - 10 / 100 * count) / (allocated - 10 / 100 * count) ≤ 1 :=
        (div_le_one hpos').2 (by linarith)
      have habove : 0 ≤ share - 10 / 100 := by linarith
      have hkept := mul_nonneg habove hscale
      have hcut := mul_le_of_le_one_right habove hscale'
      exact ⟨by linarith, by linarith, fun _ => by linarith⟩
  · exact ⟨by linarith, le_refl _, fun _ => hshare⟩

/-- What is above a base is scaled, share by share or together. -/
theorem sum_map_scaled (shares : List Rat) (base scale : Rat) :
    (shares.map fun share => base + (share - base) * scale).sum =
      base * shares.length + (shares.sum - base * shares.length) * scale := by
  induction shares with
  | nil => simp
  | cons share shares ih =>
    rw [List.map_cons, List.sum_cons, ih, List.sum_cons, List.length_cons]
    push_cast
    ring

/-- Shares that are fitted come to the space just if they exceeded it. -/
theorem sum_fitted {space : Rat} (hspace : 0 < space) (shares : List Rat) :
    (shares.map (fitted space shares.sum shares.length)).sum = min shares.sum space := by
  by_cases hallocated : space < shares.sum
  · rw [min_eq_right hallocated.le]
    have hpos : 0 < shares.sum := hspace.trans hallocated
    by_cases hfew : space < 10 / 100 * (shares.length : Rat)
    · have heq : fitted space shares.sum shares.length = fun share =>
          share * (space / shares.sum) := by
        funext share
        rw [fitted, if_pos hallocated, if_pos hfew]
      rw [heq, List.sum_map_mul_right, List.map_id', mul_div_cancel₀ space hpos.ne']
    · -- the tenths are kept, and what is above them is scaled to what is left of the space
      have heq : fitted space shares.sum shares.length = fun share =>
          10 / 100 + (share - 10 / 100) * ((space - 10 / 100 * shares.length) /
            (shares.sum - 10 / 100 * shares.length)) := by
        funext share
        rw [fitted, if_pos hallocated, if_neg hfew]
      have hne : shares.sum - 10 / 100 * (shares.length : Rat) ≠ 0 :=
        (sub_pos.2 (lt_of_le_of_lt (not_lt.1 hfew) hallocated)).ne'
      rw [heq, sum_map_scaled, mul_div_cancel₀ _ hne, add_sub_cancel]
  · have heq : fitted space shares.sum shares.length = id := by
      funext share
      rw [fitted, if_neg hallocated, id]
    rw [min_eq_left (not_lt.1 hallocated), heq, List.map_id]

/-! ## Hundredths -/

/-- Rounding down takes less than a hundredth. -/
theorem portion_floorHundredths {x : Rat} (hx : 0 ≤ x) :
    portion (floorHundredths x) ≤ x ∧ x < portion (floorHundredths x) + 1 / 100 := by
  have hfloor : (0 : Int) ≤ (x * 100).floor := Rat.le_floor_iff.2 (by push_cast; linarith)
  have hcast : ((floorHundredths x : Nat) : Rat) = (x * 100).floor := by
    show (((x * 100).floor.toNat : Nat) : Rat) = _
    rw [← Int.cast_natCast, Int.toNat_of_nonneg hfloor]
  have hle := Rat.floor_le (x * 100)
  have hlt := Rat.lt_floor_add_one (x * 100)
  rw [portion, hcast]
  push_cast at hlt
  constructor <;> linarith

/-- A share of whole hundredths or more keeps them. -/
theorem le_floorHundredths {x : Rat} {n : Nat} (h : portion n ≤ x) : n ≤ floorHundredths x := by
  have hle : ((n : Int) : Rat) ≤ x * 100 := by
    rw [portion] at h
    push_cast
    linarith
  have hfloor := Int.toNat_le_toNat (Rat.le_floor_iff.2 hle)
  rwa [Int.toNat_natCast] at hfloor

/-- Rounding all shares down takes less than a hundredth for each. -/
theorem sum_floorHundredths {shares : List Rat} (h : ∀ share ∈ shares, 0 ≤ share) :
    (shares.map fun share => portion (floorHundredths share)).sum ≤ shares.sum ∧
      (shares ≠ [] → shares.sum - 1 / 100 * shares.length <
        (shares.map fun share => portion (floorHundredths share)).sum) := by
  induction shares with
  | nil => exact ⟨le_refl _, fun hne => absurd rfl hne⟩
  | cons share shares ih =>
    rw [List.forall_mem_cons] at h
    obtain ⟨hle, hlt⟩ := portion_floorHundredths h.1
    obtain ⟨hles, hlts⟩ := ih h.2
    rw [List.map_cons, List.sum_cons, List.sum_cons, List.length_cons]
    push_cast
    refine ⟨by linarith, fun _ => ?_⟩
    -- the loss is strict as soon as there is one share
    cases shares with
    | nil => simpa [sub_lt_iff_lt_add] using hlt
    | cons next shares =>
      have hrest := hlts (List.cons_ne_nil _ _)
      linarith

end MarkTex.Table
