import Mathlib

/-!
# Order and differences of doubles

A difference of doubles is rounded, but never to zero: doubles whose difference is zero are equal,
so that what is below one of them is below the other (`lt_of_sub_eq_zero`). A double above a
positive one is not zero (`ne_zero_of_lt`). Nothing is assumed of the doubles; they may be infinite
or no numbers.

## Shape of the proof

* A double is a mantissa of at most 53 bits at an exponent from -1074 on, and mantissas below the
  largest are written with 53 bits unless the exponent is the least one (`Regular`). So two doubles
  of equal value are one (`eq_of_aligned`).
* Rounding a mantissa above zero from such an exponent leaves one above zero
  (`roundWithAccuracy_bounds`), and packing it leaves it so (`isZero_of_pack`).
-/

namespace MarkTex.Number.Double

open Float.Model
open Float.Model.UnpackedFloat hiding compare

/-! ## Forms of doubles -/

/-- The float is finite only with a mantissa and an exponent that a double can have. -/
def InRange : UnpackedFloat → Prop
  | .finite _ mantissa exponent _ => mantissa < 2 ^ 53 ∧ -1074 ≤ exponent
  | _ => True

/-- The float is finite only in the one form that a double has for its value. -/
def Regular : UnpackedFloat → Prop
  | .finite _ mantissa exponent _ =>
    mantissa < 2 ^ 53 ∧ -1074 ≤ exponent ∧ (2 ^ 52 ≤ mantissa ∨ exponent = -1074)
  | _ => True

/-- A regular double is in range. -/
theorem Regular.inRange {u : UnpackedFloat} (h : Regular u) : InRange u := by
  cases u with
  | finite sign m e hm => exact ⟨h.1, h.2.1⟩
  | notANumber | infinity | zero => trivial

/-- Whether a float is one of the two zeros. -/
def isZero : UnpackedFloat → Bool
  | .zero _ => true
  | _ => false

/-- Every double is regular. -/
theorem regular_unpack (x : Float.Model) : Regular x.unpack := by
  have hbias : ((Format.binary64.exponentBias : Nat) : Int) +
      (Format.binary64.mantissaBitsWithoutImplicit : Nat) = 1075 := by
    decide
  have hmantissa : (@unpackMantissa .binary64 x.toBits.toBitVec).toNat < 2 ^ 52 :=
    (@unpackMantissa .binary64 x.toBits.toBitVec).isLt
  unfold Float.Model.unpack UnpackedFloat.unpack
  dsimp only
  rw [hbias]
  split
  · split <;> trivial
  split
  · rename_i hexponent
    split
    · trivial
    · rw [hexponent]
      exact ⟨by omega, by decide, .inr (by decide)⟩
  · rename_i hexponent
    -- the first bit of the mantissa is not stored
    have hleading : (1#1 ++ @unpackMantissa .binary64 x.toBits.toBitVec).toNat =
        2 ^ 52 + (@unpackMantissa .binary64 x.toBits.toBitVec).toNat := by
      rw [BitVec.toNat_append, ← Nat.shiftLeft_add_eq_or_of_lt hmantissa]
      rfl
    have hpos : 0 < (@unpackExponent .binary64 x.toBits.toBitVec).toNat := by
      refine Nat.pos_of_ne_zero fun hzero => hexponent (BitVec.eq_of_toNat_eq ?_)
      rw [hzero]
      rfl
    rw [Regular, hleading]
    exact ⟨by omega, by omega, .inl (by omega)⟩

/-! ## Rounding -/

/-- Shifting to the right divides the mantissa. -/
theorem mantissa_shiftRight (em : ExtendedMantissa) (k : Nat) :
    (em >>> k).mantissa = em.mantissa / 2 ^ k := by
  induction k with
  | zero => simp [HShiftRight.hShiftRight, Nat.repeat]
  | succ k ih =>
    show (ExtendedMantissa.shiftRightOne (em >>> k)).mantissa = _
    simp only [ExtendedMantissa.shiftRightOne, ih, Nat.div_div_eq_div_mul, Nat.pow_succ]

/-- Rounding to the nearest never goes below what is cut off. -/
theorem mantissa_le_roundedMantissa (em : ExtendedMantissa) :
    em.mantissa ≤ em.roundedMantissa := by
  rw [ExtendedMantissa.roundedMantissa]
  cases em.accuracy with
  | exact => exact Nat.le_refl _
  | inexact order => cases order <;> simp only [Accuracy.roundToNearestEven] <;> omega

/-- Shifting to the exponent of the result divides the mantissa by the difference. -/
theorem mantissa_shiftToTargetExponent (m : Nat) (e : Int) (accuracy : Accuracy) :
    (shiftToTargetExponent .binary64 m e accuracy).1.mantissa =
      m / 2 ^ (Format.binary64.targetExponent (totalExponent m e) - e).toNat := by
  rw [shiftToTargetExponent, shiftToExponent, mantissa_shiftRight]
  cases accuracy with
  | exact => rfl
  | inexact order => cases order <;> rfl

/-- The exponent of the result leaves 53 bits of the mantissa, and is not below the least one. -/
theorem targetExponent_eq (m : Nat) (e : Int) :
    Format.binary64.targetExponent (totalExponent m e) = max (m.log2 + e - 52) (-1074) := by
  have hbits : (Format.binary64.mantissaBits : Int) = 53 := by
    decide
  have hleast : Format.binary64.minExponent = -1074 := by
    decide
  rw [Format.targetExponent, totalExponent, hbits, hleast]
  omega

/-- A mantissa that is shifted to its target exponent keeps its first bits, at most 53. -/
theorem shifted_bounds {m : Nat} {e : Int} (hm : 0 < m) (he : -1074 ≤ e) :
    0 < m / 2 ^ (Format.binary64.targetExponent (totalExponent m e) - e).toNat ∧
      m / 2 ^ (Format.binary64.targetExponent (totalExponent m e) - e).toNat < 2 ^ 53 := by
  have hlow : 2 ^ m.log2 ≤ m := Nat.log2_self_le (Nat.ne_of_gt hm)
  have hhigh : m < 2 ^ (m.log2 + 1) := Nat.lt_log2_self
  have hshift : (Format.binary64.targetExponent (totalExponent m e) - e).toNat = m.log2 - 52 := by
    rw [targetExponent_eq]
    omega
  rw [hshift]
  constructor
  · refine Nat.div_pos (Nat.le_trans ?_ hlow) (Nat.two_pow_pos _)
    exact Nat.pow_le_pow_right (by decide) (Nat.sub_le _ _)
  · rw [Nat.div_lt_iff_lt_mul (Nat.two_pow_pos _), ← Nat.pow_add]
    exact Nat.lt_of_lt_of_le hhigh (Nat.pow_le_pow_right (by decide) (by omega))

/-- A mantissa above zero is not rounded to zero from an exponent that a double can have. -/
theorem roundWithAccuracy_bounds (sign : Sign) {m : Nat} {e : Int} (accuracy : Accuracy)
    (hm : 0 < m) (he : -1074 ≤ e) :
    InRange (roundWithAccuracy .binary64 sign m e accuracy) ∧
      isZero (roundWithAccuracy .binary64 sign m e accuracy) = false := by
  -- the mantissa is shifted twice, the second time because rounding may have made it longer
  have hfirst : 0 < (shiftToTargetExponent .binary64 m e accuracy).1.roundedMantissa := by
    refine Nat.lt_of_lt_of_le ?_ (mantissa_le_roundedMantissa _)
    rw [mantissa_shiftToTargetExponent]
    exact (shifted_bounds hm he).1
  have hexponent : -1074 ≤ (shiftToTargetExponent .binary64 m e accuracy).2 := by
    show -1074 ≤ e + _
    omega
  have hsecond := shifted_bounds hfirst hexponent
  rw [← mantissa_shiftToTargetExponent _ _ .exact] at hsecond
  rw [UnpackedFloat.roundWithAccuracy]
  dsimp only
  rw [dif_neg (Nat.ne_of_gt hsecond.1)]
  refine ⟨⟨hsecond.2, ?_⟩, rfl⟩
  show -1074 ≤ _ + _
  omega

/-- Rounding a mantissa above zero stays in range and above zero. -/
theorem round_bounds (sign : Sign) {m : Nat} {e : Int} (hm : 0 < m) (he : -1074 ≤ e) :
    InRange (UnpackedFloat.round .binary64 sign m e) ∧
      isZero (UnpackedFloat.round .binary64 sign m e) = false := by
  have htarget := targetExponent_eq m e
  rw [UnpackedFloat.round, decreaseExponent]
  refine roundWithAccuracy_bounds sign .exact ?_ (by omega)
  rw [Nat.shiftLeft_eq]
  exact Nat.mul_pos hm (Nat.two_pow_pos _)

/-- A whole number of units is rounded to zero only if it is zero. -/
theorem normalize_bounds (m : Int) {e : Int} (sign : Sign) (he : -1074 ≤ e) :
    InRange (UnpackedFloat.normalize .binary64 m e sign) ∧
      (isZero (UnpackedFloat.normalize .binary64 m e sign) = true → m = 0) := by
  rw [UnpackedFloat.normalize]
  split
  · rename_i hcompare
    rw [Int.compare_eq_lt] at hcompare
    obtain ⟨hrange, hzero⟩ := round_bounds .negative (m := (-m).toNat) (by omega) he
    exact ⟨hrange, fun h => absurd h (by rw [hzero]; decide)⟩
  · rename_i hcompare
    exact ⟨trivial, fun _ => Int.compare_eq_eq.1 hcompare⟩
  · rename_i hcompare
    rw [Int.compare_eq_gt] at hcompare
    obtain ⟨hrange, hzero⟩ := round_bounds .positive (m := m.toNat) (by omega) he
    exact ⟨hrange, fun h => absurd h (by rw [hzero]; decide)⟩

/-! ## Packing -/

/-- Only a zero is packed as a zero. -/
theorem isZero_of_pack {u : UnpackedFloat} (hu : InRange u)
    (h : isZero (Float.Model.pack u).unpack = true) : isZero u = true := by
  cases u with
  | notANumber => exact absurd h (by decide)
  | infinity sign => cases sign <;> exact absurd h (by decide)
  | zero sign => rfl
  | finite sign m e hm =>
    obtain ⟨hhigh, hleast⟩ := hu
    have hbias : e + (Format.binary64.exponentBias : Nat) +
        (Format.binary64.mantissaBitsWithoutImplicit : Nat) = e + 1075 := by
      have hsum : (Format.binary64.exponentBias : Int) +
          (Format.binary64.mantissaBitsWithoutImplicit : Nat) = 1075 := by
        decide
      omega
    have hbits : Format.binary64.mantissaBits = 53 := by
      decide
    -- the bits are those of an infinity, or have an exponent or a mantissa above zero
    have hpack : unpackExponent (UnpackedFloat.pack .binary64 (.finite sign m e hm)) ≠ 0 ∨
        unpackMantissa (UnpackedFloat.pack .binary64 (.finite sign m e hm)) ≠ 0 := by
      rw [UnpackedFloat.pack]
      dsimp only
      rw [hbias, hbits]
      split
      · left
        rw [packedInfinity, unpackExponent_packComponents]
        decide
      rename_i hfits
      split
      · left
        rw [unpackExponent_packComponents]
        intro hzero
        have hmod : (e + 1075).toNat % 2 ^ 11 = 0 := congrArg BitVec.toNat hzero
        have hfits' : ¬ 2 ^ 11 ≤ (e + 1075).toNat + 1 := hfits
        omega
      · right
        rename_i hlog
        have hlow : m < 2 ^ 52 := by
          have hlog' := (Nat.log2_lt (Nat.ne_of_gt hm)).2 hhigh
          exact (Nat.log2_lt (Nat.ne_of_gt hm)).1 (by omega)
        rw [unpackMantissa_packComponents]
        intro hzero
        have hmod : m % 2 ^ 52 = 0 := congrArg BitVec.toNat hzero
        omega
    refine absurd h (Bool.eq_false_iff.1 ?_)
    show isZero (UnpackedFloat.unpack .binary64
      (UnpackedFloat.pack .binary64 (.finite sign m e hm))) = false
    generalize UnpackedFloat.pack .binary64 (.finite sign m e hm) = bits at hpack
    rw [UnpackedFloat.unpack]
    dsimp only
    split
    · split <;> rfl
    split
    · rename_i hexponent
      split
      · rename_i hmantissa
        rcases hpack with hpack | hpack
        · exact absurd hexponent hpack
        · exact absurd hmantissa hpack
      · rfl
    · rfl

/-! ## Differences -/

/-- Two floats that have the same value at their common exponent are one. -/
theorem eq_of_aligned {s t : Sign} {m n : Nat} {e f : Int} {hm : 0 < m} {hn : 0 < n}
    (hu : Regular (.finite s m e hm)) (hv : Regular (.finite t n f hn))
    (h : s.apply (m <<< (e - min e f).toNat : Nat) -
      t.apply (n <<< (f - min e f).toNat : Nat) = 0) :
    UnpackedFloat.finite s m e hm = .finite t n f hn := by
  obtain ⟨hmhigh, heleast, hmlow⟩ := hu
  obtain ⟨hnhigh, hfleast, hnlow⟩ := hv
  rw [Nat.shiftLeft_eq, Nat.shiftLeft_eq] at h
  have hmpos : 0 < m * 2 ^ (e - min e f).toNat := Nat.mul_pos hm (Nat.two_pow_pos _)
  have hnpos : 0 < n * 2 ^ (f - min e f).toNat := Nat.mul_pos hn (Nat.two_pow_pos _)
  generalize hm' : m * 2 ^ (e - min e f).toNat = m' at *
  generalize hn' : n * 2 ^ (f - min e f).toNat = n' at *
  obtain ⟨rfl, rfl⟩ : s = t ∧ m' = n' := by
    cases s <;> cases t <;> simp only [Sign.apply] at h <;> simp <;> omega
  -- a mantissa of 53 bits is too long for a double once it is shifted
  have hshifted : ∀ {m k : Nat}, 2 ^ 52 ≤ m → 0 < k → 2 ^ 53 ≤ m * 2 ^ k := by
    intro m k hm hk
    have hmul := Nat.mul_le_mul hm (Nat.pow_le_pow_right (show 0 < 2 by decide) hk)
    omega
  obtain rfl : e = f := by
    rcases Int.lt_trichotomy e f with hlt | heq | hlt
    · have hlong := hshifted (hnlow.resolve_right (by omega))
        (show 0 < (f - min e f).toNat by omega)
      rw [show (e - min e f).toNat = 0 by omega] at hm'
      omega
    · exact heq
    · have hlong := hshifted (hmlow.resolve_right (by omega))
        (show 0 < (e - min e f).toNat by omega)
      rw [show (f - min e f).toNat = 0 by omega] at hn'
      omega
  rw [show (e - min e e).toNat = 0 by omega] at hm' hn'
  obtain rfl : m = n := by omega
  rfl

/-- A difference is zero only between a float and itself, or between zeros. -/
theorem sub_bounds {u v : UnpackedFloat} (hu : Regular u) (hv : Regular v) :
    InRange (UnpackedFloat.sub .binary64 u v) ∧
      (isZero (UnpackedFloat.sub .binary64 u v) = true →
        u = v ∨ isZero u = true ∧ isZero v = true) := by
  cases u with
  | notANumber => exact ⟨trivial, fun h => nomatch h⟩
  | infinity s =>
    cases v with
    | infinity t => cases s <;> cases t <;> exact ⟨trivial, fun h => nomatch h⟩
    | notANumber | zero | finite => exact ⟨trivial, fun h => nomatch h⟩
  | zero s =>
    cases v with
    | zero t => cases s <;> cases t <;> exact ⟨trivial, fun _ => .inr ⟨rfl, rfl⟩⟩
    | finite t n f hn => exact ⟨hv.inRange, fun h => nomatch h⟩
    | notANumber | infinity => exact ⟨trivial, fun h => nomatch h⟩
  | finite s m e hm =>
    cases v with
    -- both mantissas are brought to the lesser exponent, where nothing is lost
    | finite t n f hn =>
      have he : -1074 ≤ min e f := Int.le_min.2 ⟨hu.2.1, hv.2.1⟩
      have hbounds := normalize_bounds (s.apply (m <<< (e - min e f).toNat : Nat) -
        t.apply (n <<< (f - min e f).toNat : Nat)) .positive he
      exact ⟨hbounds.1, fun h => .inl (eq_of_aligned hu hv (hbounds.2 h))⟩
    | zero t => exact ⟨hu.inRange, fun h => nomatch h⟩
    | notANumber | infinity => exact ⟨trivial, fun h => nomatch h⟩

/-! ## Order -/

/-- Comparing does not tell the two zeros apart. -/
theorem compare_eq_of_isZero (u : UnpackedFloat) {v w : UnpackedFloat} (hv : isZero v = true)
    (hw : isZero w = true) : u.compare v = u.compare w := by
  cases v with
  | zero s =>
    cases w with
    | zero t =>
      cases u with
      | notANumber | zero => rfl
      | infinity r | finite r => cases r <;> rfl
    | notANumber | infinity | finite => exact nomatch hw
  | notANumber | infinity | finite => exact nomatch hv

/-- A double that equals zero is one of the two zeros. -/
theorem isZero_of_beq {x : Float} (h : (x == 0.0) = true) : isZero x.toModel.unpack = true := by
  have hcompare : (x.toModel.unpack.compare (.zero .positive) == some .eq) = true := h
  generalize x.toModel.unpack = u at hcompare
  cases u with
  | zero s => rfl
  | notANumber => exact nomatch hcompare
  | infinity s | finite s => cases s <;> exact nomatch hcompare

/-- Doubles are ordered as their values are. -/
theorem lt_iff {x y : Float} : x < y ↔ x.toModel.unpack.compare y.toModel.unpack = some .lt :=
  Iff.trans decide_eq_true_iff beq_iff_eq

/-- Doubles are ordered as their values are. -/
theorem le_iff {x y : Float} :
    x ≤ y ↔ (x.toModel.unpack.compare y.toModel.unpack).any Ordering.isLE = true :=
  decide_eq_true_iff

/-- A double that is not at most zero is above it, unless it is no number. -/
theorem not_le_zero_iff {x : Float} : ¬ x ≤ 0.0 ↔ 0.0 < x ∨ x.isNaN = true := by
  have hle : x ≤ 0.0 ↔
      (x.toModel.unpack.compare (.zero .positive)).any Ordering.isLE = true := le_iff
  have hlt : 0.0 < x ↔ (UnpackedFloat.zero .positive).compare x.toModel.unpack = some .lt := lt_iff
  have hnan : x.isNaN = x.toModel.unpack.isNaN := rfl
  rw [hle, hlt, hnan]
  generalize x.toModel.unpack = u
  cases u with
  | notANumber => exact iff_of_true nofun (.inr rfl)
  | zero s => exact iff_of_false (fun h => h rfl) fun h => h.elim nofun nofun
  | infinity s | finite s =>
    cases s with
    | positive => exact iff_of_true nofun (.inl rfl)
    | negative => exact iff_of_false (fun h => h rfl) fun h => h.elim nofun nofun

/-- What is no number is not above zero. -/
theorem not_isNaN_of_pos {x : Float} (h : 0.0 < x) : x.isNaN = false := by
  have hlt : (UnpackedFloat.zero .positive).compare x.toModel.unpack = some .lt := lt_iff.1 h
  have hnan : x.isNaN = x.toModel.unpack.isNaN := rfl
  rw [hnan]
  cases hx : x.toModel.unpack with
  | notANumber =>
    rw [hx] at hlt
    exact nomatch hlt
  | zero | infinity | finite => rfl

/-- **Doubles without a difference have the same doubles below them.** -/
theorem lt_of_sub_eq_zero {x y z : Float} (hlt : x < y) (hzero : (y - z == 0.0) = true) :
    x < z := by
  obtain ⟨hrange, hequal⟩ := sub_bounds (regular_unpack y.toModel) (regular_unpack z.toModel)
  rw [lt_iff] at hlt ⊢
  rcases hequal (isZero_of_pack hrange (isZero_of_beq hzero)) with heq | ⟨hy, hz⟩
  · rwa [← heq]
  · rwa [← compare_eq_of_isZero _ hy hz]

/-- What is above a positive double is not zero. -/
theorem ne_zero_of_lt {x y : Float} (hpos : 0.0 < x) (hlt : x < y) : (y == 0.0) = false := by
  refine Bool.eq_false_iff.2 fun hzero => ?_
  have hbelow : (UnpackedFloat.zero .positive).compare x.toModel.unpack = some .lt :=
    lt_iff.1 hpos
  have habove := compare_eq_of_isZero x.toModel.unpack (isZero_of_beq hzero)
    (show isZero (.zero .positive) = true from rfl)
  rw [lt_iff.1 hlt] at habove
  generalize x.toModel.unpack = u at hbelow habove
  cases u with
  | notANumber | zero => exact nomatch hbelow
  | infinity s | finite s =>
    cases s with
    | negative => exact nomatch hbelow
    | positive => exact nomatch habove

end MarkTex.Number.Double
