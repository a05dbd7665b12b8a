import Mathlib.Algebra.Order.Floor.Semifield
import Mathlib.Data.Rat.Floor
import Mathlib.Tactic.FieldSimp
import Mathlib.Tactic.Linarith
import Mathlib.Tactic.Positivity
import GridDiffusion.Number.Share
/-! Shares of a count: the product of the count and the share is rounded to a double, the nearest
one and of two that are equally near the even one, and then down. -/
namespace GridDiffusion

namespace Ratio

def value (ratio : Ratio) : ℚ := ratio.numerator / ratio.divisor

theorem value_ofScaled (factor : Nat) (power : Int) :
    (ofScaled 2 factor power).value = factor * 2 ^ power := by
  cases power with
  | ofNat up => simp [ofScaled, value]
  | negSucc down => simp [ofScaled, value, zpow_negSucc, div_eq_mul_inv]

theorem floor_eq (ratio : Ratio) : ratio.floor = ⌊ratio.value⌋₊ :=
  (Nat.floor_div_eq_div ratio.numerator ratio.divisor).symm

theorem divisor_ofScaled_pos (factor : Nat) (power : Int) : 0 < (ofScaled 2 factor power).divisor := by
  cases power with
  | ofNat up => exact Nat.one_pos
  | negSucc down => exact Nat.pow_pos Nat.two_pos

theorem le_one_iff {ratio : Ratio} (positive : 0 < ratio.divisor) :
    ratio.le ⟨1, 1⟩ = true ↔ ratio.value ≤ 1 := by
  have divisor : (0 : ℚ) < ratio.divisor := Nat.cast_pos.mpr positive
  rw [le, decide_eq_true_iff, Nat.mul_one, Nat.one_mul, value, div_le_one divisor, Nat.cast_le]

variable {numerator divisor : Nat}

/-- A rounded quotient is off by at most a half, and is even if it is off by a half. -/
theorem roundHalfEven_error (positive : 0 < divisor) :
    let error := ((numerator : Int) - roundHalfEven ⟨numerator, divisor⟩ * divisor).natAbs
    2 * error ≤ divisor ∧ (2 * error = divisor → roundHalfEven ⟨numerator, divisor⟩ % 2 = 0) := by
  have below : numerator % divisor < divisor := Nat.mod_lt _ positive
  have whole : (numerator : Int) - (numerator / divisor : Nat) * divisor =
      (numerator % divisor : Nat) := by
    have split : ((numerator / divisor * divisor + numerator % divisor : Nat) : Int) = numerator :=
      congrArg Nat.cast (Nat.div_add_mod' numerator divisor)
    rw [Nat.cast_add, Nat.cast_mul] at split
    omega
  have next : (numerator : Int) - (numerator / divisor + 1 : Nat) * divisor =
      (numerator % divisor : Nat) - divisor := by
    rw [Nat.cast_add, Int.add_mul]
    omega
  unfold roundHalfEven
  dsimp only
  split
  · rw [whole]
    omega
  split
  · rw [next]
    omega
  split
  · rw [whole]
    omega
  · rw [next]
    omega

theorem roundHalfEven_one (numerator : Nat) : roundHalfEven ⟨numerator, 1⟩ = numerator := by
  simp [roundHalfEven, Nat.mod_one]

theorem roundHalfEven_mem (numerator divisor : Nat) :
    numerator / divisor ≤ roundHalfEven ⟨numerator, divisor⟩ ∧
      roundHalfEven ⟨numerator, divisor⟩ ≤ numerator / divisor + 1 := by
  unfold roundHalfEven
  dsimp only
  split
  · omega
  split
  · omega
  split <;> omega

/-- No whole number is nearer than the rounded one, which is even if another one is as near. -/
theorem roundHalfEven_nearest (positive : 0 < divisor) (other : Int) :
    let error := ((numerator : Int) - roundHalfEven ⟨numerator, divisor⟩ * divisor).natAbs
    error ≤ (numerator - other * divisor).natAbs ∧
      (error = (numerator - other * divisor).natAbs →
        other = roundHalfEven ⟨numerator, divisor⟩ ∨ roundHalfEven ⟨numerator, divisor⟩ % 2 = 0) := by
  obtain ⟨half, even⟩ := @roundHalfEven_error numerator divisor positive
  generalize roundHalfEven ⟨numerator, divisor⟩ = rounded at half even
  by_cases same : other = rounded
  · exact ⟨by rw [same], fun _ => .inl same⟩
  · have apart : divisor ≤ ((other - rounded) * divisor).natAbs := by
      rw [Int.natAbs_mul, Int.natAbs_natCast]
      exact Nat.le_mul_of_pos_left _ (Int.natAbs_pos.mpr (sub_ne_zero.mpr same))
    rw [Int.sub_mul] at apart
    dsimp only
    exact ⟨by omega, fun tie => .inr (even (by omega))⟩

end Ratio

namespace Binary64
variable {double other : Binary64} {significand : Nat} {scale : Int}

def value (double : Binary64) : ℚ :=
  (if double.isNegative then -1 else 1) * (double.significand * 2 ^ double.scale)

theorem two_zpow_pos (power : Int) : (0 : ℚ) < 2 ^ power := zpow_pos two_pos power

theorem significand_lt (double : Binary64) : double.significand < 2 ^ 53 := by
  have fraction : double.fractionBits < 2 ^ 52 := Nat.mod_lt _ (by decide)
  unfold significand exponentUnit
  split <;> omega

theorem le_scale (double : Binary64) : -1074 ≤ double.scale := by
  unfold scale
  omega

theorem le_significand (wide : -1074 < double.scale) : 2 ^ 52 ≤ double.significand := by
  have normal : double.biasedExponent ≠ 0 := by
    intro zero
    rw [scale, zero] at wide
    omega
  rw [significand, if_neg normal]
  exact Nat.le_add_right _ _

def ofParts (biased fraction : Nat) : Binary64 := ⟨.ofNat (biased * exponentUnit + fraction)⟩

theorem parts_ofParts {biased fraction : Nat} (finite : biased < 0x7FF) (bits : fraction < 2 ^ 52) :
    (ofParts biased fraction).biasedExponent = biased ∧
      (ofParts biased fraction).fractionBits = fraction ∧
        (ofParts biased fraction).isNegative = false := by
  have whole : (ofParts biased fraction).bits.toNat = biased * 2 ^ 52 + fraction :=
    UInt64.toNat_ofNat_of_lt' (by change biased * 2 ^ 52 + fraction < 2 ^ 64; omega)
  rw [biasedExponent, fractionBits, isNegative, whole, decide_eq_false_iff_not]
  unfold exponentUnit signUnit
  omega

/-- Every significand of up to 53 bits is one of a double, with a unit that leaves it no shorter
than the least unit does. -/
theorem exists_ofParts (short : significand < 2 ^ 53) (low : -1074 ≤ scale) (high : scale ≤ 971)
    (normal : 2 ^ 52 ≤ significand ∨ scale = -1074) :
    ∃ double : Binary64, double.isFinite = true ∧ double.isNegative = false ∧
      double.significand = significand ∧ double.scale = scale := by
  by_cases small : significand < 2 ^ 52
  · obtain ⟨biased, fraction, sign⟩ := @parts_ofParts 0 significand (by decide) small
    refine ⟨ofParts 0 significand, ?_, sign, ?_, ?_⟩
    · rw [isFinite, biased]
      rfl
    · rw [Binary64.significand, if_pos biased, fraction]
    · rw [Binary64.scale, biased]
      omega
  · obtain ⟨biased, fraction, sign⟩ :=
      @parts_ofParts (scale + 1075).toNat (significand - 2 ^ 52) (by omega) (by omega)
    refine ⟨ofParts (scale + 1075).toNat (significand - 2 ^ 52), ?_, sign, ?_, ?_⟩
    · rw [isFinite, biased, bne_iff_ne]
      omega
    · rw [Binary64.significand, biased, if_neg (by omega), fraction, exponentUnit]
      omega
    · rw [Binary64.scale, biased]
      omega

theorem value_eq (positive : double.isNegative = false) :
    double.value = double.significand * 2 ^ double.scale := by
  rw [value, positive, if_neg Bool.false_ne_true, one_mul]

/-- Every whole number of up to 53 bits is a double in every unit between the least and the
greatest. -/
theorem exists_value_eq (short : significand < 2 ^ 53) (low : -1074 ≤ scale) (high : scale ≤ 971) :
    ∃ double : Binary64, double.isFinite = true ∧ double.value = significand * 2 ^ scale := by
  obtain ⟨steps, rfl⟩ : ∃ steps : Nat, scale = steps - 1074 := ⟨(scale + 1074).toNat, by omega⟩
  induction steps generalizing significand with
  | zero =>
    obtain ⟨double, finite, positive, same, unit⟩ := exists_ofParts short low high (.inr (by omega))
    exact ⟨double, finite, by rw [value_eq positive, same, unit]⟩
  | succ steps ih =>
    by_cases normal : 2 ^ 52 ≤ significand
    · obtain ⟨double, finite, positive, same, unit⟩ := exists_ofParts short low high (.inl normal)
      exact ⟨double, finite, by rw [value_eq positive, same, unit]⟩
    -- A significand with a bit to spare is the double of itself in half the unit.
    · obtain ⟨double, finite, same⟩ := @ih (significand * 2) (by omega) (by omega) (by omega)
      refine ⟨double, finite, ?_⟩
      have unit : (2 : ℚ) ^ (((steps + 1 : Nat) : Int) - 1074) = 2 ^ ((steps : Int) - 1074) * 2 := by
        rw [← zpow_add_one₀ two_ne_zero]
        congr 1
        omega
      rw [same, unit, Nat.cast_mul, Nat.cast_ofNat]
      ring

theorem isNegative_eq_false_of_pos (positive : 0 < double.value) : double.isNegative = false := by
  rw [← Bool.not_eq_true]
  intro negative
  have magnitude : 0 ≤ (double.significand : ℚ) * 2 ^ double.scale :=
    mul_nonneg (Nat.cast_nonneg _) (two_zpow_pos _).le
  rw [value, if_pos negative] at positive
  linarith

/-- The doubles from the least significand of 53 bits on are whole multiples of a unit. -/
theorem exists_multiple (large : 2 ^ 52 * 2 ^ scale ≤ double.value) :
    ∃ factor : Int, double.value = factor * 2 ^ scale := by
  have positive : 0 < double.value := lt_of_lt_of_le (mul_pos (by norm_num) (two_zpow_pos scale)) large
  rw [value_eq (isNegative_eq_false_of_pos positive)] at large ⊢
  rcases Int.le_total scale double.scale with wide | narrow
  · obtain ⟨steps, same⟩ := Int.exists_add_of_le wide
    refine ⟨double.significand * 2 ^ steps, ?_⟩
    rw [same, zpow_add₀ two_ne_zero, zpow_natCast]
    push_cast
    ring
  -- With a narrower unit the significand would have to be longer than it can be.
  · obtain ⟨steps, rfl⟩ := Int.exists_add_of_le narrow
    rw [zpow_add₀ two_ne_zero, zpow_natCast, mul_left_comm, mul_comm,
      mul_le_mul_iff_left₀ (two_zpow_pos _)] at large
    have long : 2 ^ 52 * 2 ^ steps ≤ double.significand := by exact_mod_cast large
    have short := double.significand_lt
    have none : steps = 0 := by
      by_contra some
      have double := Nat.pow_le_pow_right Nat.two_pos (Nat.one_le_iff_ne_zero.mpr some)
      omega
    rw [none]
    exact ⟨double.significand, by simp⟩

/-- The double to which a number is rounded: none is nearer, and if another one is as near then this
one is even. -/
structure IsNearest (exact : ℚ) (double : Binary64) : Prop where
  finite : double.isFinite = true
  nearest {other : Binary64} : other.isFinite = true →
    |exact - double.value| ≤ |exact - other.value|
  even {other : Binary64} : other.isFinite = true →
    |exact - double.value| = |exact - other.value| →
      other.value = double.value ∨ double.significand % 2 = 0

theorem isNearest_value (finite : double.isFinite = true) : IsNearest double.value double where
  finite := finite
  nearest _ := by
    rw [sub_self, abs_zero]
    exact abs_nonneg _
  even _ same := by
    rw [sub_self, abs_zero, eq_comm, abs_eq_zero, sub_eq_zero] at same
    exact .inl same.symm

/-- From a number of 53 bits or more some multiple of the unit is at least as near as another
double, and nearer if that double is none. -/
theorem exists_multiple_nearer {exact : ℚ} (large : 2 ^ 52 * 2 ^ scale ≤ exact) (other : Binary64) :
    ∃ factor : Int, |exact - factor * 2 ^ scale| ≤ |exact - other.value| ∧
      (|exact - factor * 2 ^ scale| = |exact - other.value| → other.value = factor * 2 ^ scale) := by
  rcases le_or_gt (2 ^ 52 * 2 ^ scale) other.value with above | below
  · obtain ⟨factor, same⟩ := exists_multiple above
    exact ⟨factor, by rw [same], fun _ => same⟩
  · have first : (((2 ^ 52 : Int) : ℚ)) * 2 ^ scale = 2 ^ 52 * 2 ^ scale := by norm_num
    refine ⟨2 ^ 52, ?_⟩
    rw [first, abs_of_nonneg (sub_nonneg.mpr large), abs_of_pos (sub_pos.mpr (below.trans_le large))]
    exact ⟨by linarith, fun _ => by linarith⟩

/-- A rounded significand may have one bit too many, but is then even. -/
theorem exists_rounded {rounded : Nat} (long : 2 ^ 52 ≤ rounded) (short : rounded ≤ 2 ^ 53)
    (low : -1074 ≤ scale) (high : scale ≤ 970) :
    ∃ double : Binary64, double.isFinite = true ∧ double.value = rounded * 2 ^ scale ∧
      (rounded % 2 = 0 → double.significand % 2 = 0) := by
  rcases Nat.lt_or_eq_of_le short with fits | rfl
  · obtain ⟨double, finite, positive, same, unit⟩ :=
      exists_ofParts fits low (by omega) (.inl long)
    exact ⟨double, finite, by rw [value_eq positive, same, unit], fun even => same ▸ even⟩
  · obtain ⟨double, finite, positive, same, unit⟩ :=
      @exists_ofParts (2 ^ 52) (scale + 1) (by decide) (by omega) (by omega) (.inl (Nat.le_refl _))
    refine ⟨double, finite, ?_, fun _ => by rw [same]; decide⟩
    rw [value_eq positive, same, unit, zpow_add_one₀ two_ne_zero]
    push_cast
    ring

theorem abs_sub_multiple (whole : Nat) (factor scale : Int) (steps : Nat) :
    |(whole : ℚ) * 2 ^ scale - factor * 2 ^ (scale + steps)| =
      ((whole : Int) - factor * (2 ^ steps : Nat)).natAbs * 2 ^ scale := by
  rw [Nat.cast_natAbs, zpow_add₀ two_ne_zero, zpow_natCast, ← abs_of_pos (two_zpow_pos scale),
    Int.cast_abs, ← abs_mul, abs_of_pos (two_zpow_pos scale)]
  push_cast
  congr 1
  ring

/-- Of a longer whole number the first 53 bits are kept, rounded by the others. -/
theorem exists_isNearest_of_long {whole steps : Nat} (least : 2 ^ 52 * 2 ^ steps ≤ whole)
    (greatest : whole < 2 ^ 53 * 2 ^ steps) (low : -1074 ≤ scale) (high : scale + steps ≤ 970) :
    ∃ double, IsNearest (whole * 2 ^ scale) double ∧
      double.value = Ratio.roundHalfEven ⟨whole, 2 ^ steps⟩ * 2 ^ (scale + steps) := by
  have unit : 0 < 2 ^ steps := Nat.two_pow_pos steps
  obtain ⟨above, below⟩ := Ratio.roundHalfEven_mem whole (2 ^ steps)
  have long := (Nat.le_div_iff_mul_le unit).mpr least
  have short := (Nat.div_lt_iff_lt_mul unit).mpr greatest
  have large : (2 : ℚ) ^ 52 * 2 ^ (scale + steps) ≤ whole * 2 ^ scale := by
    rw [zpow_add₀ two_ne_zero, zpow_natCast, mul_comm (2 ^ scale), ← mul_assoc,
      mul_le_mul_iff_left₀ (two_zpow_pos scale)]
    exact_mod_cast least
  have closest := @Ratio.roundHalfEven_nearest whole (2 ^ steps) unit
  generalize Ratio.roundHalfEven ⟨whole, 2 ^ steps⟩ = rounded at above below closest
  obtain ⟨double, finite, value, even⟩ :=
    exists_rounded (Nat.le_trans long above) (by omega) (by omega) high
  have own := abs_sub_multiple whole rounded scale steps
  rw [Int.cast_natCast, ← value] at own
  -- Among the multiples of the unit the rounded one is the nearest, as it is among the whole numbers.
  have first (factor : Int) : |(whole : ℚ) * 2 ^ scale - double.value| ≤
        |(whole : ℚ) * 2 ^ scale - factor * 2 ^ (scale + steps)| ∧
      (|(whole : ℚ) * 2 ^ scale - double.value| =
          |(whole : ℚ) * 2 ^ scale - factor * 2 ^ (scale + steps)| →
        factor = rounded ∨ rounded % 2 = 0) := by
    rw [own, abs_sub_multiple, mul_le_mul_iff_left₀ (two_zpow_pos scale),
      mul_left_inj' (two_zpow_pos scale).ne', Nat.cast_le, Nat.cast_inj]
    exact closest factor
  refine ⟨double, ⟨finite, ?_, ?_⟩, value⟩
  · intro other _
    obtain ⟨factor, nearer, -⟩ := exists_multiple_nearer large other
    exact (first factor).1.trans nearer
  · intro other _ tie
    obtain ⟨factor, nearer, multiple⟩ := exists_multiple_nearer large other
    have equal := le_antisymm (first factor).1 (tie ▸ nearer)
    rw [multiple (equal ▸ tie), value]
    rcases (first factor).2 equal with rfl | halfway
    · exact .inl (by rw [Int.cast_natCast])
    · exact .inr (even halfway)

theorem roundToSignificand_of_lt {whole : Nat} (short : whole < 2 ^ 53) :
    roundToSignificand whole = whole := by
  have bits : whole.log2 - 52 = 0 := by
    rcases Nat.eq_zero_or_pos whole with rfl | positive
    · rfl
    · have bound := (Nat.log2_lt (Nat.ne_of_gt positive)).mpr short
      omega
  rw [roundToSignificand, bits]
  exact (Nat.mul_one _).trans (Ratio.roundHalfEven_one whole)

theorem roundToSignificand_of_log2 {whole places : Nat} (bits : whole.log2 = 52 + places) :
    roundToSignificand whole = Ratio.roundHalfEven ⟨whole, 2 ^ places⟩ * 2 ^ places := by
  rw [roundToSignificand, bits, Nat.add_sub_cancel_left]
  rfl

/-- A whole number that is rounded to 53 bits is the nearest double in every unit. -/
theorem exists_isNearest (whole : Nat) (low : -1074 ≤ scale)
    (high : scale + (whole.log2 - 52 : Nat) ≤ 970) :
    ∃ double, IsNearest (whole * 2 ^ scale) double ∧
      double.value = roundToSignificand whole * 2 ^ scale := by
  by_cases short : whole < 2 ^ 53
  · obtain ⟨double, finite, exact⟩ := exists_value_eq short low (by omega)
    exact ⟨double, exact ▸ isNearest_value finite, by rw [roundToSignificand_of_lt short, exact]⟩
  · have nonzero : whole ≠ 0 := by omega
    have wide := (Nat.le_log2 nonzero).mpr (Nat.le_of_not_lt short)
    have least := Nat.log2_self_le nonzero
    have greatest := @Nat.lt_log2_self whole
    generalize steps_eq : whole.log2 - 52 = steps at high
    have bits : whole.log2 = 52 + steps := by omega
    rw [bits, Nat.pow_add] at least
    rw [bits, Nat.add_right_comm, Nat.pow_add] at greatest
    obtain ⟨double, nearest, value⟩ := exists_isNearest_of_long least greatest low high
    refine ⟨double, nearest, ?_⟩
    rw [value, roundToSignificand_of_log2 bits, zpow_add₀ two_ne_zero, zpow_natCast]
    push_cast
    ring

variable {share : Binary64} {count : Nat}

/-- A double from zero to one, ends included. -/
structure IsFraction (share : Binary64) : Prop where
  finite : share.isFinite = true
  nonneg : 0 ≤ share.value
  le_one : share.value ≤ 1

/-- The sign of a fraction is lost on its value: only zero may have one. -/
theorem IsFraction.value_eq (fraction : share.IsFraction) :
    share.value = share.significand * 2 ^ share.scale := by
  cases negative : share.isNegative with
  | false => exact Binary64.value_eq negative
  | true =>
    have magnitude : 0 ≤ (share.significand : ℚ) * 2 ^ share.scale :=
      mul_nonneg (Nat.cast_nonneg _) (two_zpow_pos _).le
    have nonneg := fraction.nonneg
    rw [value, if_pos negative] at nonneg ⊢
    linarith

theorem isShare_iff : share.isShare = true ↔ share.IsFraction := by
  have small : share.magnitude.le ⟨1, 1⟩ = true ↔ (share.significand : ℚ) * 2 ^ share.scale ≤ 1 := by
    rw [magnitude, Ratio.le_one_iff (Ratio.divisor_ofScaled_pos _ _), Ratio.value_ofScaled]
  have zero : share.significand = 0 → share.value = 0 := fun none => by simp [value, none]
  rw [isShare, Bool.and_eq_true, Bool.or_eq_true, beq_iff_eq, Bool.and_eq_true, small,
    Bool.not_eq_eq_eq_not, Bool.not_true]
  constructor
  · rintro ⟨finite, none | ⟨positive, le_one⟩⟩
    · exact ⟨finite, (zero none).ge, (zero none).trans_le zero_le_one⟩
    · rw [← Binary64.value_eq positive] at le_one
      refine ⟨finite, ?_, le_one⟩
      rw [Binary64.value_eq positive]
      exact mul_nonneg (Nat.cast_nonneg _) (two_zpow_pos _).le
  · intro fraction
    refine ⟨fraction.finite, ?_⟩
    by_cases none : share.significand = 0
    · exact .inl none
    · have magnitude : 0 < share.value := by
        rw [fraction.value_eq]
        exact mul_pos (Nat.cast_pos.mpr (Nat.pos_of_ne_zero none)) (two_zpow_pos _)
      exact .inr ⟨isNegative_eq_false_of_pos magnitude, fraction.value_eq ▸ fraction.le_one⟩

theorem IsFraction.scale_le (fraction : share.IsFraction) : share.scale ≤ 0 := by
  by_contra wide
  have long : (2 ^ 52 : ℚ) ≤ share.significand := by
    exact_mod_cast le_significand (by omega)
  have unit : (1 : ℚ) ≤ 2 ^ share.scale := one_le_zpow₀ one_le_two (by omega)
  have le_one := fraction.le_one
  rw [fraction.value_eq] at le_one
  nlinarith

/-- The share of a count is the product of the two doubles, rounded to a double and then down, and
it is no more than the count. -/
theorem shareOf_spec (fraction : share.IsFraction) (short : count < 2 ^ 53) :
    ∃ whole product : Binary64, whole.isFinite = true ∧ whole.value = count ∧
      IsNearest (whole.value * share.value) product ∧ share.shareOf count = ⌊product.value⌋₊ ∧
        share.shareOf count ≤ count := by
  obtain ⟨whole, finite, same⟩ := @exists_value_eq count 0 short (by decide) (by decide)
  rw [zpow_zero, mul_one] at same
  have bits : (count * share.significand).log2 - 52 ≤ 53 := by
    rcases Nat.eq_zero_or_pos (count * share.significand) with none | positive
    · rw [none]
      decide
    · have product : count * share.significand < 2 ^ 53 * 2 ^ 53 :=
        Nat.mul_lt_mul'' short share.significand_lt
      have logarithm : (count * share.significand).log2 < 106 :=
        (Nat.log2_lt (Nat.ne_of_gt positive)).mpr product
      omega
  have narrow := fraction.scale_le
  obtain ⟨product, nearest, value⟩ :=
    exists_isNearest (count * share.significand) share.le_scale (by omega)
  have exact : ((count * share.significand : Nat) : ℚ) * 2 ^ share.scale =
      whole.value * share.value := by
    rw [same, fraction.value_eq, Nat.cast_mul, mul_assoc]
  rw [exact] at nearest
  have floor : share.shareOf count = ⌊product.value⌋₊ := by
    rw [shareOf, Ratio.floor_eq, Ratio.value_ofScaled, value]
  refine ⟨whole, product, finite, same, nearest, floor, ?_⟩
  -- The count is a double itself, and no less than the product.
  have below : whole.value * share.value ≤ whole.value := by
    rw [same]
    exact mul_le_of_le_one_right (Nat.cast_nonneg _) fraction.le_one
  have closer := nearest.nearest finite
  rw [abs_sub_comm _ whole.value, abs_of_nonneg (sub_nonneg.mpr below)] at closer
  have above := (abs_le.mp closer).1
  rw [floor]
  exact Nat.floor_le_of_le (by linarith)

/-- The double nearest to three tenths lies below it, but ten times it is rounded up to three. -/
example : shareOf ⟨0x3FD3333333333333⟩ 10 = 3 := by decide

end Binary64
end GridDiffusion
