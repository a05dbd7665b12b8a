import GridDiffusion.Proofs.Number.Share
/-! Whole numbers cut to significands of 53 bits: how they are rounded, and from where on they reach
a power of two above all doubles. -/
namespace GridDiffusion

namespace Ratio

theorem le_roundHalfEven_iff {numerator divisor bound : Nat} (positive : 0 < divisor)
    (even : bound % 2 = 0) : bound ≤ roundHalfEven ⟨numerator, divisor⟩ ↔
      2 * (bound * divisor) ≤ 2 * numerator + divisor := by
  have split := Nat.div_add_mod' numerator divisor
  have below := Nat.mod_lt numerator positive
  rcases Nat.lt_trichotomy (numerator / divisor + 1) bound with less | same | more
  · have far : (numerator / divisor + 2) * divisor ≤ bound * divisor :=
      Nat.mul_le_mul_right _ less
    have rounded := (roundHalfEven_mem numerator divisor).2
    rw [Nat.add_mul] at far
    omega
  · rw [← same, Nat.add_mul, roundHalfEven]
    dsimp only
    split_ifs <;> omega
  · have near : bound * divisor ≤ numerator / divisor * divisor :=
      Nat.mul_le_mul_right _ (Nat.le_of_lt_succ more)
    have rounded := (roundHalfEven_mem numerator divisor).1
    omega

theorem roundHalfEven_mul (numerator divisor : Nat) {factor : Nat} (positive : 0 < factor) :
    roundHalfEven ⟨numerator * factor, divisor * factor⟩ =
      roundHalfEven ⟨numerator, divisor⟩ := by
  have less (left right : Nat) : left * factor < right * factor ↔ left < right :=
    Nat.mul_lt_mul_right positive
  rw [roundHalfEven, roundHalfEven]
  simp only [Nat.mul_div_mul_right _ _ positive, Nat.mul_mod_mul_right, ← Nat.mul_assoc, less]

end Ratio

namespace Binary64

/-- From here on a number is rounded up to the power of two above all doubles. -/
def overflow : Nat := 2 ^ 1024 - 2 ^ 970

theorem two_zpow_le {low high : Int} (below : low ≤ high) : (2 : ℚ) ^ low ≤ 2 ^ high :=
  zpow_le_zpow_right₀ one_le_two below

theorem two_zpow_add (scale : Int) (steps : Nat) :
    (2 : ℚ) ^ (scale + steps) = 2 ^ steps * 2 ^ scale := by
  rw [zpow_add₀ two_ne_zero, zpow_natCast, mul_comm]

theorem mul_zpow_eq (whole : ℚ) (places : Nat) (scale : Int) :
    whole * 2 ^ scale = whole / 2 ^ places * 2 ^ (scale + places) := by
  rw [two_zpow_add]
  field_simp

theorem overflow_eq : (overflow : ℚ) = (2 ^ 54 - 1) * 2 ^ (970 : Int) := by
  have above : (2 : ℕ) ^ 1024 = 2 ^ 54 * 2 ^ 970 := by rw [← pow_add]
  rw [overflow, above, Nat.cast_sub (Nat.le_mul_of_pos_left _ (by decide)), Nat.cast_mul,
    Nat.cast_pow, Nat.cast_pow, Nat.cast_ofNat, sub_mul, one_mul, zpow_ofNat]

theorem log2_mul_two_pow {whole : Nat} (some : whole ≠ 0) (shift : Nat) :
    (whole * 2 ^ shift).log2 = whole.log2 + shift := by
  have unit := Nat.two_pow_pos shift
  obtain ⟨least, greatest⟩ := (Nat.log2_eq_iff some).mp rfl
  refine (Nat.log2_eq_iff (Nat.mul_ne_zero some unit.ne')).mpr ⟨?_, ?_⟩
  · rw [Nat.pow_add]
    exact Nat.mul_le_mul_right _ least
  · rw [Nat.add_right_comm, Nat.pow_add]
    exact Nat.mul_lt_mul_of_pos_right greatest unit

theorem log2_of_long {significand : Nat} (long : 2 ^ 52 ≤ significand)
    (short : significand < 2 ^ 53) : significand.log2 = 52 :=
  (Nat.log2_eq_iff (by omega)).mpr ⟨long, short⟩

theorem log2_eq_of_le {whole : Nat} (long : 2 ^ 52 ≤ whole) :
    whole.log2 = 52 + (whole.log2 - 52) := by
  have some : whole ≠ 0 := by omega
  have wide := (Nat.le_log2 some).mpr long
  omega

theorem bounds_of_log2 {significand places : Nat} (bits : significand.log2 = 52 + places) :
    2 ^ 52 ≤ significand / 2 ^ places ∧ significand / 2 ^ places < 2 ^ 53 := by
  have some : significand ≠ 0 := by
    rintro rfl
    rw [Nat.log2_zero] at bits
    omega
  obtain ⟨least, greatest⟩ := (Nat.log2_eq_iff some).mp bits
  rw [Nat.pow_add] at least
  rw [Nat.add_right_comm, Nat.pow_add] at greatest
  have unit := Nat.two_pow_pos places
  exact ⟨(Nat.le_div_iff_mul_le unit).mpr least, (Nat.div_lt_iff_lt_mul unit).mpr greatest⟩

theorem cast_roundToSignificand {significand places : Nat} {scale : Int}
    (bits : significand.log2 = 52 + places) : (roundToSignificand significand : ℚ) * 2 ^ scale =
      Ratio.roundHalfEven ⟨significand, 2 ^ places⟩ * 2 ^ (scale + places) := by
  rw [roundToSignificand_of_log2 bits, zpow_add₀ two_ne_zero, zpow_natCast]
  push_cast
  ring

theorem roundToSignificand_mul {whole places : Nat} (bits : whole.log2 = 52 + places)
    (shift : Nat) :
    roundToSignificand (whole * 2 ^ shift) = roundToSignificand whole * 2 ^ shift := by
  have some : whole ≠ 0 := by
    rintro rfl
    rw [Nat.log2_zero] at bits
    omega
  have shifted : (whole * 2 ^ shift).log2 = 52 + (places + shift) := by
    rw [log2_mul_two_pow some, bits, Nat.add_assoc]
  rw [roundToSignificand_of_log2 bits, roundToSignificand_of_log2 shifted, Nat.pow_add,
    Ratio.roundHalfEven_mul _ _ (Nat.two_pow_pos shift), Nat.mul_assoc]

theorem cast_roundToSignificand_mul {whole shift : Nat}
    (same : roundToSignificand (whole * 2 ^ shift) = roundToSignificand whole * 2 ^ shift) :
    (roundToSignificand (whole * 2 ^ shift) : ℚ) * 2 ^ (-shift : Int) = roundToSignificand whole := by
  rw [same, zpow_neg, zpow_natCast]
  push_cast
  exact mul_inv_cancel_right₀ (by positivity) _

/-- A significand of up to 53 bits reaches a bound between the last two powers of two if its scale
is beyond the greatest one of a double. -/
theorem le_mul_zpow_iff {kept bound : ℚ} {scale : Int} (long : 2 ^ 52 ≤ kept) (short : kept ≤ 2 ^ 53)
    (above : 2 ^ 53 < bound) (below : bound ≤ 2 ^ 54) (apart : scale ≠ 971) :
    bound * 2 ^ (970 : Int) ≤ kept * 2 ^ scale ↔ 971 < scale := by
  have half := two_zpow_pos 970
  constructor
  · intro reached
    by_contra small
    have narrow : (2 : ℚ) ^ scale ≤ 2 ^ (970 : Int) := two_zpow_le (by omega)
    have inside : kept * 2 ^ scale ≤ 2 ^ 53 * 2 ^ (970 : Int) :=
      mul_le_mul short narrow (two_zpow_pos _).le (by positivity)
    exact absurd (reached.trans inside) (not_le.mpr (mul_lt_mul_of_pos_right above half))
  · intro large
    have wide : (2 : ℚ) ^ 2 * 2 ^ (970 : Int) ≤ 2 ^ scale := by
      rw [← two_zpow_add]
      exact two_zpow_le (by omega)
    calc bound * 2 ^ (970 : Int) ≤ 2 ^ 54 * 2 ^ (970 : Int) :=
          mul_le_mul_of_nonneg_right below half.le
      _ = 2 ^ 52 * (2 ^ 2 * 2 ^ (970 : Int)) := by rw [← mul_assoc, ← pow_add]
      _ ≤ kept * 2 ^ scale := mul_le_mul long wide (mul_pos (by norm_num) half).le (by linarith)

/-- What is rounded to 53 bits leaves the range from half a unit below the power above all doubles
on. -/
theorem le_roundToSignificand_iff {significand places : Nat} {scale : Int}
    (bits : significand.log2 = 52 + places) :
    (2 : ℚ) ^ (1024 : Int) ≤ roundToSignificand significand * 2 ^ scale ↔
      (overflow : ℚ) ≤ significand * 2 ^ scale := by
  obtain ⟨least, greatest⟩ := bounds_of_log2 bits
  obtain ⟨above, below⟩ := Ratio.roundHalfEven_mem significand (2 ^ places)
  have middle : 2 ^ 53 ≤ Ratio.roundHalfEven ⟨significand, 2 ^ places⟩ ↔
      2 * (2 ^ 53 * 2 ^ places) ≤ 2 * significand + 2 ^ places :=
    Ratio.le_roundHalfEven_iff (Nat.two_pow_pos places) rfl
  have top : (2 : ℚ) ^ (1024 : Int) = 2 ^ 54 * 2 ^ (970 : Int) := two_zpow_add 970 54
  rw [cast_roundToSignificand bits, overflow_eq, mul_zpow_eq significand places,
    top]
  generalize Ratio.roundHalfEven ⟨significand, 2 ^ places⟩ = rounded at above below middle
  have unit : (0 : ℚ) < 2 ^ places := by positivity
  by_cases same : scale + places = 971
  · have double : (2 : ℚ) ^ (971 : Int) = 2 ^ 1 * 2 ^ (970 : Int) := two_zpow_add 970 1
    have half := two_zpow_pos 970
    have cast : 2 ^ 53 ≤ rounded ↔
        (2 : ℚ) * (2 ^ 53 * 2 ^ places) ≤ 2 * significand + 2 ^ places := by
      rw [middle]
      exact_mod_cast Iff.rfl
    have own : 2 ^ 53 ≤ rounded ↔ (2 : ℚ) ^ 54 ≤ rounded * 2 ^ 1 := by
      have twice : 2 ^ 53 ≤ rounded ↔ 2 ^ 54 ≤ rounded * 2 ^ 1 := by omega
      rw [twice]
      exact_mod_cast Iff.rfl
    rw [same, double, ← mul_assoc, ← mul_assoc, mul_le_mul_iff_left₀ half,
      mul_le_mul_iff_left₀ half, div_mul_eq_mul_div, le_div_iff₀ unit, ← own, cast]
    constructor <;> intro reached <;> linarith
  · have long : (2 : ℚ) ^ 52 ≤ significand / 2 ^ places := (le_div_iff₀ unit).mpr
      (by exact_mod_cast (Nat.le_div_iff_mul_le (Nat.two_pow_pos places)).mp least)
    have short : (significand : ℚ) / 2 ^ places ≤ 2 ^ 53 := (div_le_iff₀ unit).mpr
      (by exact_mod_cast ((Nat.div_lt_iff_lt_mul (Nat.two_pow_pos places)).mp greatest).le)
    have roundedLong : (2 : ℚ) ^ 52 ≤ rounded := by exact_mod_cast least.trans above
    have roundedShort : (rounded : ℚ) ≤ 2 ^ 53 := by exact_mod_cast below.trans greatest
    rw [le_mul_zpow_iff roundedLong roundedShort (by norm_num) le_rfl same,
      le_mul_zpow_iff long short (by norm_num) (by norm_num) same]

theorem roundToSignificand_le (whole : Nat) : roundToSignificand whole ≤ 2 * whole := by
  rcases Nat.lt_or_ge whole (2 ^ 53) with short | long
  · rw [roundToSignificand_of_lt short]
    omega
  · have bits := @log2_eq_of_le whole (by omega)
    have rounded := (Ratio.roundHalfEven_mem whole (2 ^ (whole.log2 - 52))).2
    have step : 2 ^ (whole.log2 - 52) ≤ whole :=
      (Nat.pow_le_pow_right (by decide) (Nat.sub_le ..)).trans (Nat.log2_self_le (by omega))
    have split := Nat.div_mul_le_self whole (2 ^ (whole.log2 - 52))
    rw [roundToSignificand_of_log2 bits]
    refine (Nat.mul_le_mul_right _ rounded).trans ?_
    rw [Nat.add_mul]
    omega

theorem roundToSignificand_pos {whole : Nat} (positive : 0 < whole) :
    0 < roundToSignificand whole := by
  rcases Nat.lt_or_ge whole (2 ^ 53) with short | long
  · rwa [roundToSignificand_of_lt short]
  · have bits := @log2_eq_of_le whole (by omega)
    obtain ⟨least, -⟩ := bounds_of_log2 bits
    have rounded := (Ratio.roundHalfEven_mem whole (2 ^ (whole.log2 - 52))).1
    rw [roundToSignificand_of_log2 bits]
    exact Nat.mul_pos (by omega) (Nat.two_pow_pos _)

theorem roundToSignificand_lt {whole : Nat} (below : whole < overflow) :
    (roundToSignificand whole : ℚ) < 2 ^ (1024 : Int) := by
  rcases Nat.lt_or_ge whole (2 ^ 53) with short | long
  · have bound : (whole : ℚ) < 2 ^ (53 : Int) := by exact_mod_cast short
    rw [roundToSignificand_of_lt short]
    exact bound.trans_le (two_zpow_le (by decide))
  · have bits := @log2_eq_of_le whole (by omega)
    have bound := mt (@le_roundToSignificand_iff _ _ 0 bits).mp
    rw [zpow_zero, mul_one, mul_one, not_le, not_le] at bound
    exact bound (Nat.cast_lt.mpr below)

end Binary64
end GridDiffusion
