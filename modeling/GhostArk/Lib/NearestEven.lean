import Mathlib.Algebra.Ring.Parity
import Mathlib.Data.Int.Log
import Mathlib.Data.Rat.Floor
import Mathlib.Tactic.Linarith
import Mathlib.Tactic.Positivity
import Mathlib.Tactic.Push
import Mathlib.Tactic.Ring

/-!
Contract: rounding to a binary format of fixed precision, ties to even.

Owns rounding to an integer, rounding to a significand with a number of fraction
bits and a least exponent, the exact integers of a format, and the interval of
integers that round to one value.

Overflow and special values belong to the instances of the format.
-/

namespace GhostArk.Lib

/-! ### Rounding to an integer -/

def nearestEven (value : ℚ) : ℤ :=
  if value - ⌊value⌋ < 1 / 2 then ⌊value⌋
  else if 1 / 2 < value - ⌊value⌋ then ⌊value⌋ + 1
  else if Even ⌊value⌋ then ⌊value⌋
  else ⌊value⌋ + 1

/-- No integer is nearer, and the integer is even where another one is as near. -/
def IsNearestEven (value : ℚ) (nearest : ℤ) : Prop :=
  (nearest - 1 / 2 ≤ value ∧ value ≤ nearest + 1 / 2) ∧
    (¬ Even nearest → nearest - 1 / 2 < value ∧ value < nearest + 1 / 2)

theorem isNearestEven_nearestEven (value : ℚ) : IsNearestEven value (nearestEven value) := by
  have floorLe := Int.floor_le value
  have ltFloor := Int.lt_floor_add_one value
  unfold nearestEven IsNearestEven
  split
  next below => exact ⟨⟨by linarith, by linarith⟩, fun _ => ⟨by linarith, by linarith⟩⟩
  split
  next above =>
    push_cast
    exact ⟨⟨by linarith, by linarith⟩, fun _ => ⟨by linarith, by linarith⟩⟩
  split
  next isEven => exact ⟨⟨by linarith, by linarith⟩, fun isOdd => absurd isEven isOdd⟩
  next isOdd =>
    push_cast
    refine ⟨⟨by linarith, by linarith⟩, fun nextOdd => ?_⟩
    exact absurd (Int.even_add_one.mpr isOdd) nextOdd

variable {value : ℚ}

private theorem nearest_not_below {left right : ℤ} (leftNearest : IsNearestEven value left)
    (rightNearest : IsNearestEven value right) : ¬ left < right := by
  intro less
  have step : left + 1 ≤ right := less
  have stepCast : (left : ℚ) + 1 ≤ right := by exact_mod_cast step
  have above := leftNearest.1.2
  have below := rightNearest.1.1
  have adjacent : right = left + 1 := by
    have reach : (right : ℚ) ≤ left + 1 := by linarith
    have : right ≤ left + 1 := by exact_mod_cast reach
    omega
  -- The value is the midpoint, so both neighbours would be even.
  by_cases isEven : Even left
  · have isOdd : ¬ Even right := by
      rw [adjacent, Int.even_add_one]
      exact not_not.mpr isEven
    have strict := (rightNearest.2 isOdd).1
    linarith
  · have strict := (leftNearest.2 isEven).2
    linarith

theorem nearestEven_eq_iff {nearest : ℤ} :
    nearestEven value = nearest ↔ IsNearestEven value nearest := by
  constructor
  · intro same
    rw [← same]
    exact isNearestEven_nearestEven value
  · intro isNearest
    have computed := isNearestEven_nearestEven value
    have notBelow := nearest_not_below computed isNearest
    have notAbove := nearest_not_below isNearest computed
    omega

theorem nearestEven_intCast (value : ℤ) : nearestEven value = value := by
  rw [nearestEven_eq_iff]
  exact ⟨⟨by linarith, by linarith⟩, fun _ => ⟨by linarith, by linarith⟩⟩

theorem nearestEven_neg (value : ℚ) : nearestEven (-value) = -nearestEven value := by
  rw [nearestEven_eq_iff]
  have nearest := isNearestEven_nearestEven value
  unfold IsNearestEven at nearest ⊢
  push_cast
  refine ⟨⟨by linarith [nearest.1.2], by linarith [nearest.1.1]⟩, fun isOdd => ?_⟩
  rw [even_neg] at isOdd
  have strict := nearest.2 isOdd
  exact ⟨by linarith, by linarith⟩

theorem le_nearestEven {bound : ℤ} (atLeast : (bound : ℚ) ≤ value) : bound ≤ nearestEven value := by
  by_contra less
  have step : nearestEven value + 1 ≤ bound := by omega
  have stepCast : (nearestEven value : ℚ) + 1 ≤ bound := by exact_mod_cast step
  have reach := (isNearestEven_nearestEven value).1.2
  linarith

theorem nearestEven_le {bound : ℤ} (atMost : value ≤ bound) : nearestEven value ≤ bound := by
  have negated : ((-bound : ℤ) : ℚ) ≤ -value := by
    push_cast
    linarith
  have mirrored := le_nearestEven negated
  rw [nearestEven_neg] at mirrored
  omega

section Format

variable (fractionBits : ℕ) (minExponent : ℤ)

def placeExponent (value : ℚ) : ℤ := max minExponent (Int.log 2 |value| - fractionBits)

/-- The nearest number with one leading bit and `fractionBits` more, and no
exponent below `minExponent`. -/
def roundTo (value : ℚ) : ℚ :=
  nearestEven (value / 2 ^ placeExponent fractionBits minExponent value) *
    2 ^ placeExponent fractionBits minExponent value

theorem roundTo_neg (value : ℚ) :
    roundTo fractionBits minExponent (-value) = -roundTo fractionBits minExponent value := by
  have samePlace : placeExponent fractionBits minExponent (-value) =
      placeExponent fractionBits minExponent value := by
    unfold placeExponent
    rw [abs_neg]
  unfold roundTo
  rw [samePlace, neg_div, nearestEven_neg]
  push_cast
  ring

end Format

section Integers

variable {fractionBits : ℕ} {minExponent : ℤ}

theorem placeExponent_natCast (value : ℕ) :
    placeExponent fractionBits minExponent value =
      max minExponent ((Nat.log 2 value : ℤ) - fractionBits) := by
  unfold placeExponent
  rw [Nat.abs_cast, Int.log_natCast]

theorem roundTo_natCast_of_lt (integral : minExponent ≤ 0) {value : ℕ}
    (small : value < 2 ^ (fractionBits + 1)) :
    roundTo fractionBits minExponent value = value := by
  have bits : Nat.log 2 value ≤ fractionBits := by
    by_cases isZero : value = 0
    · simp [isZero]
    · have := Nat.log_lt_of_lt_pow isZero small
      omega
  have fine : placeExponent fractionBits minExponent value ≤ 0 := by
    rw [placeExponent_natCast]
    omega
  unfold roundTo
  generalize placeExponent fractionBits minExponent value = place at fine
  -- A place of exponent at most zero divides every integer.
  cases Int.exists_eq_neg_ofNat fine with
  | intro places isPlace =>
    have scaled : (value : ℚ) / 2 ^ place = ((value * 2 ^ places : ℤ) : ℚ) := by
      rw [isPlace, zpow_neg, zpow_natCast, div_inv_eq_mul]
      push_cast
      rfl
    rw [scaled, nearestEven_intCast, ← scaled]
    exact div_mul_cancel₀ (value : ℚ) (zpow_ne_zero place two_ne_zero)

theorem roundTo_natCast_of_le (integral : minExponent ≤ 0) {value places : ℕ}
    (isPlace : Nat.log 2 value = fractionBits + places) :
    roundTo fractionBits minExponent value =
      nearestEven ((value : ℚ) / 2 ^ places) * 2 ^ places := by
  have place : placeExponent fractionBits minExponent value = (places : ℤ) := by
    rw [placeExponent_natCast]
    omega
  unfold roundTo
  rw [place, zpow_natCast]

/-- The integers that round to `significand * 2 ^ exponent`, in quarters of a
unit: half a unit around it, but a quarter below the least significand. -/
def InRoundingInterval (fractionBits significand exponent value : ℕ) : Prop :=
  let centre := 4 * significand * 2 ^ exponent
  let below := if significand = 2 ^ fractionBits then 2 ^ exponent else 2 * 2 ^ exponent
  let above := 2 * 2 ^ exponent
  if Even significand then centre ≤ 4 * value + below ∧ 4 * value ≤ centre + above
  else centre < 4 * value + below ∧ 4 * value < centre + above

end Integers

section Intervals

theorem isNearestEven_div_iff {value place significand : ℕ} (positive : 0 < place) :
    IsNearestEven ((value : ℚ) / place) significand ↔
      (4 * significand * place ≤ 4 * value + 2 * place ∧
          4 * value ≤ 4 * significand * place + 2 * place) ∧
        (¬ Even significand →
          4 * significand * place < 4 * value + 2 * place ∧
            4 * value < 4 * significand * place + 2 * place) := by
  have placePos : (0 : ℚ) < place := by exact_mod_cast positive
  unfold IsNearestEven
  rw [le_div_iff₀ placePos, div_le_iff₀ placePos, lt_div_iff₀ placePos, div_lt_iff₀ placePos,
    Int.even_coe_nat]
  simp only [← @Nat.cast_le ℚ, ← @Nat.cast_lt ℚ]
  push_cast
  constructor
  · intro nearest
    refine ⟨⟨by linarith [nearest.1.1], by linarith [nearest.1.2]⟩, fun isOdd => ?_⟩
    have strict := nearest.2 isOdd
    exact ⟨by linarith, by linarith⟩
  · intro inside
    refine ⟨⟨by linarith [inside.1.1], by linarith [inside.1.2]⟩, fun isOdd => ?_⟩
    have strict := inside.2 isOdd
    exact ⟨by linarith, by linarith⟩

variable {fractionBits : ℕ} {minExponent : ℤ} {value significand places : ℕ}

private theorem binade (isPlace : Nat.log 2 value = fractionBits + places) (nonzero : value ≠ 0) :
    2 ^ fractionBits * 2 ^ places ≤ value ∧ value < 2 * 2 ^ fractionBits * 2 ^ places := by
  have lower := Nat.pow_log_le_self 2 nonzero
  have upper := Nat.lt_pow_succ_log_self (show 1 < 2 by decide) value
  rw [isPlace, pow_add] at lower
  rw [isPlace, Nat.succ_eq_add_one, pow_succ, pow_add] at upper
  exact ⟨lower, by linarith⟩

private theorem nearestEven_eq_iff_inRoundingInterval (wide : 0 < fractionBits)
    (isPlace : Nat.log 2 value = fractionBits + places) (nonzero : value ≠ 0)
    (normal : 2 ^ fractionBits ≤ significand) :
    nearestEven ((value : ℚ) / 2 ^ places) = significand ↔
      InRoundingInterval fractionBits significand places value := by
  have bounds := binade isPlace nonzero
  have placePos : 0 < 2 ^ places := Nat.two_pow_pos places
  rw [nearestEven_eq_iff, show (2 : ℚ) ^ places = ((2 ^ places : ℕ) : ℚ) by norm_cast,
    isNearestEven_div_iff placePos]
  by_cases isLeast : significand = 2 ^ fractionBits
  · -- The least significand is even and no integer of the binade lies below it.
    subst isLeast
    have isEven : Even (2 ^ fractionBits) := Nat.even_pow.mpr ⟨even_two, wide.ne'⟩
    rw [and_iff_left fun isOdd => absurd isEven isOdd]
    simp only [InRoundingInterval, if_pos isEven, if_true]
    exact ⟨fun inside => ⟨by linarith, inside.2⟩, fun inside => ⟨by linarith, inside.2⟩⟩
  · by_cases isEven : Even significand
    · rw [and_iff_left fun isOdd => absurd isEven isOdd]
      simp only [InRoundingInterval, if_pos isEven, if_neg isLeast]
    · simp only [InRoundingInterval, if_neg isLeast, isEven, if_false, not_false_eq_true,
        true_implies]
      exact ⟨And.right, fun strict => ⟨⟨strict.1.le, strict.2.le⟩, strict⟩⟩

private theorem nearestEven_eq_next_iff (wide : 0 < fractionBits)
    (isPlace : Nat.log 2 value = fractionBits + places) (nonzero : value ≠ 0) :
    nearestEven ((value : ℚ) / 2 ^ places) = (2 ^ (fractionBits + 1) : ℕ) ↔
      InRoundingInterval fractionBits (2 ^ fractionBits) (places + 1) value := by
  have bounds := binade isPlace nonzero
  have placePos : 0 < 2 ^ places := Nat.two_pow_pos places
  have leastEven : Even (2 ^ fractionBits) := Nat.even_pow.mpr ⟨even_two, wide.ne'⟩
  have nextEven : Even (2 ^ (fractionBits + 1)) := Nat.even_pow.mpr ⟨even_two, by omega⟩
  rw [nearestEven_eq_iff, show (2 : ℚ) ^ places = ((2 ^ places : ℕ) : ℚ) by norm_cast,
    isNearestEven_div_iff placePos, and_iff_left fun isOdd => absurd nextEven isOdd]
  simp only [InRoundingInterval, if_pos leastEven, if_true, pow_succ]
  exact ⟨fun inside => ⟨by linarith, by linarith⟩, fun inside => ⟨by linarith, by linarith⟩⟩

private theorem weakBounds (inside : InRoundingInterval fractionBits significand places value) :
    4 * significand * 2 ^ places ≤ 4 * value + 2 * 2 ^ places ∧
      4 * value ≤ 4 * significand * 2 ^ places + 2 * 2 ^ places := by
  have placePos : 0 < 2 ^ places := Nat.two_pow_pos places
  unfold InRoundingInterval at inside
  dsimp only at inside
  split at inside
  next =>
    split at inside
    next => exact ⟨by linarith, inside.2⟩
    next => exact inside
  next =>
    split at inside
    next => exact ⟨by linarith, inside.2.le⟩
    next => exact ⟨inside.1.le, inside.2.le⟩

private theorem log_of_inRoundingInterval
    (normal : 2 ^ fractionBits ≤ significand ∧ significand < 2 * 2 ^ fractionBits)
    (coarse : 1 ≤ places) (inside : InRoundingInterval fractionBits significand places value) :
    Nat.log 2 value = fractionBits + places ∨
      significand = 2 ^ fractionBits ∧ Nat.log 2 value + 1 = fractionBits + places := by
  have bounds := weakBounds inside
  have upper : value < 2 ^ (fractionBits + places + 1) := by
    rw [pow_succ, pow_add]
    have below : (significand + 1) * 2 ^ places ≤ 2 * 2 ^ fractionBits * 2 ^ places :=
      Nat.mul_le_mul_right _ normal.2
    have placePos : 0 < 2 ^ places := Nat.two_pow_pos places
    linarith
  by_cases reaches : 2 ^ fractionBits * 2 ^ places ≤ value
  · rw [← pow_add] at reaches
    exact Or.inl (Nat.log_eq_of_pow_le_of_lt_pow reaches upper)
  · refine Or.inr ?_
    rw [not_le] at reaches
    have isLeast : significand = 2 ^ fractionBits := by
      by_contra larger
      have next : (2 ^ fractionBits + 1) * 2 ^ places ≤ significand * 2 ^ places :=
        Nat.mul_le_mul_right _ (by omega)
      linarith
    -- Within a quarter below the least significand there is still half of its value.
    cases places with
    | zero => omega
    | succ fewer =>
      refine ⟨isLeast, ?_⟩
      subst isLeast
      have leastPos : 2 ^ fewer ≤ 2 ^ fractionBits * 2 ^ fewer :=
        Nat.le_mul_of_pos_left _ (Nat.two_pow_pos fractionBits)
      rw [pow_succ] at bounds reaches
      have half : 2 ^ (fractionBits + fewer) ≤ value := by
        rw [pow_add]
        linarith
      have whole : value < 2 ^ (fractionBits + fewer + 1) := by
        rw [pow_succ, pow_add]
        linarith
      rw [Nat.log_eq_of_pow_le_of_lt_pow half whole]
      rfl

private theorem normalForm_unique {significand' places' : ℕ}
    (normal : 2 ^ fractionBits ≤ significand ∧ significand < 2 * 2 ^ fractionBits)
    (normal' : 2 ^ fractionBits ≤ significand' ∧ significand' < 2 * 2 ^ fractionBits)
    (same : significand * 2 ^ places = significand' * 2 ^ places') :
    significand = significand' ∧ places = places' := by
  have leading : ∀ {significand places : ℕ},
      2 ^ fractionBits ≤ significand ∧ significand < 2 * 2 ^ fractionBits →
        Nat.log 2 (significand * 2 ^ places) = fractionBits + places := by
    intro significand places normal
    have placePos : 0 < 2 ^ places := Nat.two_pow_pos places
    apply Nat.log_eq_of_pow_le_of_lt_pow
    · rw [pow_add]
      exact Nat.mul_le_mul_right _ normal.1
    · rw [pow_add, pow_add, pow_one]
      nlinarith
  have samePlaces : places = places' := by
    have left : Nat.log 2 (significand * 2 ^ places) = fractionBits + places := leading normal
    rw [same, leading normal'] at left
    omega
  subst samePlaces
  exact ⟨Nat.eq_of_mul_eq_mul_right (Nat.two_pow_pos places) same, rfl⟩

theorem roundTo_of_inRoundingInterval (wide : 0 < fractionBits) (integral : minExponent ≤ 0)
    (normal : 2 ^ fractionBits ≤ significand ∧ significand < 2 * 2 ^ fractionBits)
    (coarse : 1 ≤ places) (inside : InRoundingInterval fractionBits significand places value) :
    roundTo fractionBits minExponent value = significand * 2 ^ places := by
  have nonzero : value ≠ 0 := by
    intro isZero
    rcases log_of_inRoundingInterval normal coarse inside with isPlace | least
    · rw [isZero, Nat.log_zero_right] at isPlace
      omega
    · rw [isZero, Nat.log_zero_right] at least
      omega
  rcases log_of_inRoundingInterval normal coarse inside with isPlace | ⟨isLeast, isBelow⟩
  · rw [roundTo_natCast_of_le integral isPlace,
      (nearestEven_eq_iff_inRoundingInterval wide isPlace nonzero normal.1).mpr inside]
    norm_cast
  · cases places with
    | zero => omega
    | succ fewer =>
      have isPlace : Nat.log 2 value = fractionBits + fewer := by omega
      subst isLeast
      rw [roundTo_natCast_of_le integral isPlace,
        (nearestEven_eq_next_iff wide isPlace nonzero).mpr inside]
      push_cast
      ring

theorem exists_inRoundingInterval (wide : 0 < fractionBits) (large : 2 ^ (fractionBits + 1) ≤ value) :
    ∃ significand places, (2 ^ fractionBits ≤ significand ∧ significand < 2 * 2 ^ fractionBits) ∧
      1 ≤ places ∧ InRoundingInterval fractionBits significand places value := by
  have nonzero : value ≠ 0 := by
    have := Nat.two_pow_pos (fractionBits + 1)
    omega
  have bits : fractionBits + 1 ≤ Nat.log 2 value := Nat.le_log_of_pow_le (by decide) large
  have isPlace : Nat.log 2 value = fractionBits + (Nat.log 2 value - fractionBits) := by omega
  generalize Nat.log 2 value - fractionBits = places at isPlace
  have bounds := binade isPlace nonzero
  have placePos : (0 : ℚ) < 2 ^ places := by positivity
  have lower : ((2 ^ fractionBits : ℕ) : ℤ) ≤ nearestEven ((value : ℚ) / 2 ^ places) := by
    apply le_nearestEven
    rw [le_div_iff₀ placePos]
    exact_mod_cast bounds.1
  have upper : nearestEven ((value : ℚ) / 2 ^ places) ≤ ((2 ^ (fractionBits + 1) : ℕ) : ℤ) := by
    apply nearestEven_le
    rw [div_le_iff₀ placePos, pow_succ]
    exact_mod_cast (by linarith [bounds.2] : value ≤ 2 ^ fractionBits * 2 * 2 ^ places)
  have isNatural : nearestEven ((value : ℚ) / 2 ^ places) =
      ((nearestEven ((value : ℚ) / 2 ^ places)).toNat : ℤ) := by omega
  generalize (nearestEven ((value : ℚ) / 2 ^ places)).toNat = significand at isNatural
  rw [isNatural] at lower upper
  norm_cast at lower upper
  by_cases within : significand < 2 ^ (fractionBits + 1)
  · refine ⟨significand, places, ⟨lower, by rwa [pow_succ'] at within⟩, by omega, ?_⟩
    exact (nearestEven_eq_iff_inRoundingInterval wide isPlace nonzero lower).mp isNatural
  · have isNext : significand = 2 ^ (fractionBits + 1) := by omega
    rw [isNext] at isNatural
    have leastPos : 0 < 2 ^ fractionBits := Nat.two_pow_pos fractionBits
    refine ⟨2 ^ fractionBits, places + 1, ⟨le_refl _, by omega⟩, by omega, ?_⟩
    exact (nearestEven_eq_next_iff wide isPlace nonzero).mp isNatural

theorem le_of_inRoundingInterval (wide : 0 < fractionBits)
    (normal : 2 ^ fractionBits ≤ significand ∧ significand < 2 * 2 ^ fractionBits)
    (coarse : 1 ≤ places) (inside : InRoundingInterval fractionBits significand places value) :
    2 ^ (fractionBits + 1) ≤ value := by
  have leastEven : Even (2 ^ fractionBits) := Nat.even_pow.mpr ⟨even_two, wide.ne'⟩
  by_contra small
  have bits : value = 0 ∨ Nat.log 2 value ≤ fractionBits := by
    by_cases isZero : value = 0
    · exact Or.inl isZero
    · have := Nat.log_lt_of_lt_pow isZero (not_le.mp small)
      exact Or.inr (by omega)
  have logs : Nat.log 2 value ≤ fractionBits := by
    rcases bits with isZero | few
    · simp [isZero]
    · exact few
  rcases log_of_inRoundingInterval normal coarse inside with isPlace | ⟨isLeast, isBelow⟩
  · omega
  · have onePlace : places = 1 := by omega
    subst isLeast onePlace
    simp only [InRoundingInterval, if_pos leastEven, if_true] at inside
    rw [pow_succ] at small
    omega

theorem le_roundTo_of_le (wide : 0 < fractionBits) (integral : minExponent ≤ 0)
    (large : 2 ^ (fractionBits + 1) ≤ value) :
    (2 : ℚ) ^ (fractionBits + 1) ≤ roundTo fractionBits minExponent value := by
  rcases exists_inRoundingInterval wide large with ⟨significand, places, normal, coarse, inside⟩
  rw [roundTo_of_inRoundingInterval wide integral normal coarse inside]
  have reach : 2 ^ (fractionBits + 1) ≤ significand * 2 ^ places := by
    rw [pow_succ]
    exact Nat.mul_le_mul normal.1
      (by simpa using Nat.pow_le_pow_right (show 0 < 2 by decide) coarse)
  exact_mod_cast reach

private theorem lt_centre (normal : 2 ^ fractionBits ≤ significand) (coarse : 1 ≤ places)
    (small : value < 2 ^ (fractionBits + 1)) : (value : ℚ) ≠ significand * 2 ^ places := by
  have reach : 2 ^ (fractionBits + 1) ≤ significand * 2 ^ places := by
    rw [pow_succ]
    exact Nat.mul_le_mul normal (by simpa using Nat.pow_le_pow_right (show 0 < 2 by decide) coarse)
  have less : value < significand * 2 ^ places := lt_of_lt_of_le small reach
  have lessCast : (value : ℚ) < significand * 2 ^ places := by exact_mod_cast less
  exact lessCast.ne

/-- **Shared values.** Two integers round to one value exactly when they are
equal or lie in one interval. -/
theorem roundTo_eq_roundTo_iff (wide : 0 < fractionBits) (integral : minExponent ≤ 0)
    {left right : ℕ} :
    roundTo fractionBits minExponent left = roundTo fractionBits minExponent right ↔
      left = right ∨ ∃ significand places,
        (2 ^ fractionBits ≤ significand ∧ significand < 2 * 2 ^ fractionBits) ∧ 1 ≤ places ∧
          InRoundingInterval fractionBits significand places left ∧
          InRoundingInterval fractionBits significand places right := by
  constructor
  · intro same
    by_cases leftSmall : left < 2 ^ (fractionBits + 1)
    · rw [roundTo_natCast_of_lt integral leftSmall] at same
      by_cases rightSmall : right < 2 ^ (fractionBits + 1)
      · rw [roundTo_natCast_of_lt integral rightSmall] at same
        exact Or.inl (by exact_mod_cast same)
      · rcases exists_inRoundingInterval wide (not_lt.mp rightSmall) with
          ⟨significand, places, normal, coarse, inside⟩
        rw [roundTo_of_inRoundingInterval wide integral normal coarse inside] at same
        exact absurd same (lt_centre normal.1 coarse leftSmall)
    · rcases exists_inRoundingInterval wide (not_lt.mp leftSmall) with
        ⟨significand, places, normal, coarse, inside⟩
      rw [roundTo_of_inRoundingInterval wide integral normal coarse inside] at same
      by_cases rightSmall : right < 2 ^ (fractionBits + 1)
      · rw [roundTo_natCast_of_lt integral rightSmall] at same
        exact absurd same.symm (lt_centre normal.1 coarse rightSmall)
      · rcases exists_inRoundingInterval wide (not_lt.mp rightSmall) with
          ⟨significand', places', normal', coarse', inside'⟩
        rw [roundTo_of_inRoundingInterval wide integral normal' coarse' inside'] at same
        have sameForm := normalForm_unique normal normal' (by exact_mod_cast same)
        rw [← sameForm.1, ← sameForm.2] at inside'
        exact Or.inr ⟨significand, places, normal, coarse, inside, inside'⟩
  · rintro (rfl | ⟨significand, places, normal, coarse, leftInside, rightInside⟩)
    · rfl
    · rw [roundTo_of_inRoundingInterval wide integral normal coarse leftInside,
        roundTo_of_inRoundingInterval wide integral normal coarse rightInside]

/-- An integer rounds to `2 ^ limit` or more exactly from half a place below it. -/
theorem pow_le_roundTo_iff (wide : 0 < fractionBits) (integral : minExponent ≤ 0) {limit : ℕ}
    (beyond : fractionBits + 2 ≤ limit) :
    (2 : ℚ) ^ limit ≤ roundTo fractionBits minExponent value ↔
      2 ^ limit ≤ value + 2 ^ (limit - fractionBits - 2) := by
  have half : 2 ^ (limit - fractionBits) = 4 * 2 ^ (limit - fractionBits - 2) := by
    rw [show (4 : ℕ) = 2 ^ 2 by rfl, ← pow_add]
    congr 1
    omega
  have top : 2 ^ fractionBits * 2 ^ (limit - fractionBits) = 2 ^ limit := by
    rw [← pow_add]
    congr 1
    omega
  have leastEven : Even (2 ^ fractionBits) := Nat.even_pow.mpr ⟨even_two, wide.ne'⟩
  constructor
  · intro reaches
    by_cases small : value < 2 ^ (fractionBits + 1)
    · rw [roundTo_natCast_of_lt integral small] at reaches
      have high : 2 ^ limit ≤ value := by exact_mod_cast reaches
      omega
    have nonzero : value ≠ 0 := by
      have := Nat.two_pow_pos (fractionBits + 1)
      omega
    rcases exists_inRoundingInterval wide (not_lt.mp small) with
      ⟨significand, places, normal, coarse, inside⟩
    rw [roundTo_of_inRoundingInterval wide integral normal coarse inside] at reaches
    have high : 2 ^ limit ≤ significand * 2 ^ places := by exact_mod_cast reaches
    have place : limit ≤ fractionBits + places := by
      have below : significand * 2 ^ places < 2 ^ (fractionBits + 1 + places) := by
        rw [pow_add, pow_succ']
        exact Nat.mul_lt_mul_of_pos_right normal.2 (Nat.two_pow_pos places)
      have := (Nat.pow_lt_pow_iff_right (show 1 < 2 by decide)).mp (lt_of_le_of_lt high below)
      omega
    rcases log_of_inRoundingInterval normal coarse inside with isPlace | ⟨isLeast, isBelow⟩
    · have := Nat.pow_le_of_le_log nonzero (show limit ≤ Nat.log 2 value by omega)
      omega
    · by_cases exact : limit = fractionBits + places
      · -- The value lies in the quarter below the least significand of the top binade.
        subst isLeast
        simp only [InRoundingInterval, if_pos leastEven, if_true] at inside
        rw [show places = limit - fractionBits by omega] at inside
        have lower := inside.1
        rw [mul_assoc, top, half] at lower
        omega
      · have := Nat.pow_le_of_le_log nonzero (show limit ≤ Nat.log 2 value by omega)
        omega
  · intro reaches
    by_cases beyondTop : 2 ^ limit ≤ value
    · have large : 2 ^ (fractionBits + 1) ≤ value :=
        (Nat.pow_le_pow_right (by decide) (by omega)).trans beyondTop
      rcases exists_inRoundingInterval wide large with
        ⟨significand, places, normal, coarse, inside⟩
      rw [roundTo_of_inRoundingInterval wide integral normal coarse inside]
      have bits : limit ≤ Nat.log 2 value := Nat.le_log_of_pow_le (by decide) beyondTop
      have place : limit ≤ fractionBits + places := by
        rcases log_of_inRoundingInterval normal coarse inside with isPlace | least <;> omega
      have high : 2 ^ limit ≤ significand * 2 ^ places := by
        refine (Nat.pow_le_pow_right (by decide) place).trans ?_
        rw [pow_add]
        exact Nat.mul_le_mul_right _ normal.1
      exact_mod_cast high
    · have inside : InRoundingInterval fractionBits (2 ^ fractionBits) (limit - fractionBits)
          value := by
        simp only [InRoundingInterval, if_pos leastEven, if_true]
        rw [mul_assoc, top, half]
        omega
      rw [roundTo_of_inRoundingInterval wide integral
        ⟨le_refl _, by have := Nat.two_pow_pos fractionBits; omega⟩ (by omega) inside]
      exact_mod_cast top.symm.le

end Intervals

end GhostArk.Lib
