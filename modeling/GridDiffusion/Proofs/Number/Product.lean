import GridDiffusion.Proofs.Number.Significand
/-! Products of doubles: which of them are infinite. The arithmetic of doubles is opened here, as
far as positive numbers with significands of 53 bits need it: how a longer significand is cut, how
words and powers of ten are turned into doubles, and which exponents leave the range. -/
namespace GridDiffusion.Binary64

open Float.Model (Format UnpackedFloat totalExponent)
open Float.Model.UnpackedFloat (ExtendedMantissa Accuracy roundWithAccuracy shiftToTargetExponent
  shiftToExponent packComponents unpackSign)

/-- A significand from which places have been cut off, with what the bits behind it tell of these.
-/
structure IsCut (whole places : Nat) (cut : ExtendedMantissa) : Prop where
  mantissa : cut.mantissa = whole / 2 ^ places
  roundBit : cut.roundBit = decide (2 ^ places ≤ 2 * (whole % 2 ^ places))
  stickyBit : cut.stickyBit =
    decide (2 * (whole % 2 ^ places) ≠ 0 ∧ 2 * (whole % 2 ^ places) ≠ 2 ^ places)

theorem IsCut.shiftRightOne {whole places : Nat} {cut : ExtendedMantissa}
    (isCut : IsCut whole places cut) : IsCut whole (places + 1) cut.shiftRightOne := by
  obtain ⟨mantissa, roundBit, stickyBit⟩ := isCut
  have below : whole % 2 ^ places < 2 ^ places := Nat.mod_lt _ (Nat.two_pow_pos places)
  have next : whole / 2 ^ (places + 1) = whole / 2 ^ places / 2 := by
    rw [Nat.pow_succ, Nat.div_div_eq_div_mul]
  have rest : whole % 2 ^ (places + 1) =
      2 ^ places * (whole / 2 ^ places % 2) + whole % 2 ^ places := by
    rw [Nat.pow_succ, Nat.mod_mul, Nat.add_comm]
  have unit : 2 ^ (places + 1) = 2 * 2 ^ places := by rw [Nat.pow_succ, Nat.mul_comm]
  have parity := Nat.mod_two_eq_zero_or_one (whole / 2 ^ places)
  refine ⟨?_, ?_, ?_⟩
  · rw [next, ← mantissa]
    rfl
  · rw [ExtendedMantissa.shiftRightOne, mantissa, rest, unit, Bool.eq_iff_iff, bne_iff_ne,
      decide_eq_true_iff]
    rcases parity with even | odd
    · rw [even]; omega
    · rw [odd]; omega
  · rw [ExtendedMantissa.shiftRightOne, roundBit, stickyBit, rest, unit, Bool.eq_iff_iff,
      Bool.or_eq_true, decide_eq_true_iff, decide_eq_true_iff, decide_eq_true_iff]
    rcases parity with even | odd
    · rw [even]; omega
    · rw [odd]; omega

theorem isCut_shiftRight (whole places : Nat) :
    IsCut whole places (ExtendedMantissa.ofMantissaAndAccuracy whole .exact >>> places) := by
  induction places with
  | zero =>
    change IsCut whole 0 ⟨whole, false, false⟩
    constructor <;> simp [Nat.mod_one]
  | succ places ih => exact ih.shiftRightOne

/-- What is left of a significand is rounded by the bits behind it as the quotient is. -/
theorem IsCut.roundedMantissa {whole places : Nat} {cut : ExtendedMantissa}
    (isCut : IsCut whole places cut) :
    cut.roundedMantissa = Ratio.roundHalfEven ⟨whole, 2 ^ places⟩ := by
  obtain ⟨kept, round, sticky⟩ := cut
  obtain ⟨mantissa, roundBit, stickyBit⟩ := isCut
  have below : whole % 2 ^ places < 2 ^ places := Nat.mod_lt _ (Nat.two_pow_pos places)
  simp only at mantissa roundBit stickyBit
  subst mantissa
  rw [Ratio.roundHalfEven]
  dsimp only
  cases round <;> cases sticky <;>
    simp only [true_eq_decide_iff, false_eq_decide_iff] at roundBit stickyBit <;>
    simp only [ExtendedMantissa.roundedMantissa, ExtendedMantissa.accuracy,
      Accuracy.roundToNearestEven] <;>
    split_ifs <;> omega

/-- A positive number with a significand of 53 bits, by its value. -/
inductive IsLong : UnpackedFloat → ℚ → Prop
  | intro {significand : Nat} {scale : Int} (positive : 0 < significand)
    (long : 2 ^ 52 ≤ significand) (short : significand < 2 ^ 53) (low : -1074 ≤ scale) :
    IsLong (.finite .positive significand scale positive) (significand * 2 ^ scale)

theorem targetExponent_binary64 (total : Int) :
    Format.binary64.targetExponent total = max (total - 53) (-1074) :=
  rfl

theorem targetExponent_eq {significand places : Nat} {scale : Int}
    (bits : significand.log2 = 52 + places) (low : -1074 ≤ scale + places) :
    Format.binary64.targetExponent (totalExponent significand scale) = scale + places := by
  rw [targetExponent_binary64, totalExponent, bits]
  omega

theorem shiftToTargetExponent_eq {significand places : Nat} {scale : Int}
    (bits : significand.log2 = 52 + places) (low : -1074 ≤ scale + places) :
    shiftToTargetExponent Format.binary64 significand scale .exact =
      (ExtendedMantissa.ofMantissaAndAccuracy significand .exact >>> places, scale + places) := by
  have steps : (scale + places - scale).toNat = places := by omega
  rw [shiftToTargetExponent, targetExponent_eq bits low, shiftToExponent, steps]

/-- A significand of 53 bits or more is rounded to 53 bits. -/
theorem isLong_roundWithAccuracy {significand places : Nat} {scale : Int}
    (bits : significand.log2 = 52 + places) (low : -1074 ≤ scale + places) :
    IsLong (roundWithAccuracy Format.binary64 .positive significand scale .exact)
      (roundToSignificand significand * 2 ^ scale) := by
  obtain ⟨long, short⟩ := bounds_of_log2 bits
  obtain ⟨above, below⟩ := Ratio.roundHalfEven_mem significand (2 ^ places)
  rw [roundWithAccuracy, shiftToTargetExponent_eq bits low, cast_roundToSignificand bits]
  dsimp only
  rw [(isCut_shiftRight significand places).roundedMantissa]
  generalize Ratio.roundHalfEven ⟨significand, 2 ^ places⟩ = rounded at above below
  rcases Nat.lt_or_eq_of_le (Nat.le_trans below short) with fits | rfl
  · have bits : rounded.log2 = 52 + 0 := log2_of_long (by omega) fits
    rw [shiftToTargetExponent_eq bits (by omega), dif_neg (by change rounded ≠ 0; omega),
      Nat.cast_zero, add_zero]
    exact .intro _ (by change 2 ^ 52 ≤ rounded; omega) fits low
  -- The rounding has carried into a new place, so the result is the least significand again.
  · have bits : (2 ^ 53 : Nat).log2 = 52 + 1 := Nat.log2_two_pow
    rw [shiftToTargetExponent_eq bits (by omega)]
    have carried : ((2 ^ 53 : Nat) : ℚ) * 2 ^ (scale + places) =
        ((2 ^ 52 : Nat) : ℚ) * 2 ^ (scale + places + 1) := by
      rw [zpow_add_one₀ two_ne_zero]
      push_cast
      ring
    rw [carried]
    exact .intro (Nat.two_pow_pos 52) (Nat.le_refl _)
      (Nat.pow_lt_pow_right (Nat.lt_succ_self 1) (Nat.lt_succ_self 52)) (by omega)

theorem isLong_round {whole : Nat} (some : whole ≠ 0) :
    IsLong (UnpackedFloat.round Format.binary64 .positive whole 0) (roundToSignificand whole) := by
  have target : Format.binary64.targetExponent (totalExponent whole 0) = (whole.log2 : Int) - 52 := by
    rw [targetExponent_binary64, totalExponent]
    omega
  have amount : (0 - ((whole.log2 : Int) - 52)).toNat = 52 - whole.log2 := by omega
  have bits : (whole * 2 ^ (52 - whole.log2)).log2 = 52 + (whole.log2 - 52) := by
    rw [log2_mul_two_pow some]
    omega
  have same : roundToSignificand (whole * 2 ^ (52 - whole.log2)) =
      roundToSignificand whole * 2 ^ (52 - whole.log2) := by
    rcases Nat.le_total 52 whole.log2 with long | short
    · rw [Nat.sub_eq_zero_of_le long, Nat.pow_zero, Nat.mul_one, Nat.mul_one]
    · have filled : whole * 2 ^ (52 - whole.log2) < 2 ^ 53 :=
        (Nat.log2_lt (Nat.mul_ne_zero some (by positivity))).mp (by omega)
      have own : whole < 2 ^ 53 := (Nat.log2_lt some).mp (by omega)
      rw [roundToSignificand_of_lt filled, roundToSignificand_of_lt own]
  have isLong := @isLong_roundWithAccuracy _ _ (-(52 - whole.log2 : Nat)) bits (by omega)
  rw [cast_roundToSignificand_mul same] at isLong
  rw [UnpackedFloat.round, target, UnpackedFloat.decreaseExponent]
  dsimp only
  rwa [amount, Nat.shiftLeft_eq, zero_sub]

theorem pack_finite {significand : Nat} {scale : Int} (positive : 0 < significand) :
    UnpackedFloat.pack Format.binary64 (.finite .positive significand scale positive) =
      let biased := (scale + 1023 + 52).toNat
      if 2048 ≤ biased + 1 then UnpackedFloat.packedInfinity Format.binary64 .positive
      else if significand.log2 + 1 = 53 then
        packComponents Format.binary64 .positive (.ofNat 11 biased) (.ofNat 52 significand)
      else packComponents Format.binary64 .positive 0#11 (.ofNat 52 significand) :=
  rfl

theorem pack_eq_infinity {significand : Nat} {scale : Int} (positive : 0 < significand)
    (high : 972 ≤ scale) :
    UnpackedFloat.pack Format.binary64 (.finite .positive significand scale positive) =
      UnpackedFloat.packedInfinity Format.binary64 .positive := by
  rw [pack_finite]
  exact if_pos (by omega)

theorem unpackSign_packComponents (exponent : BitVec 11) (fraction : BitVec 52) :
    unpackSign (packComponents Format.binary64 .positive exponent fraction) = 0#1 := by
  change (0#1 ++ exponent ++ fraction).extractLsb' 63 1 = 0#1
  rw [BitVec.extractLsb'_append_eq_of_le (by decide),
    BitVec.extractLsb'_append_eq_of_le (by decide)]
  rfl

theorem toNat_leading {significand : Nat} (long : 2 ^ 52 ≤ significand)
    (short : significand < 2 ^ 53) : (1#1 ++ BitVec.ofNat 52 significand).toNat = significand := by
  rw [BitVec.toNat_append, ← Nat.shiftLeft_add_eq_or_of_lt (BitVec.isLt _), BitVec.toNat_ofNat]
  change 2 ^ 52 + significand % 2 ^ 52 = significand
  omega

/-- With an exponent in the range the first bit is put back. -/
theorem exists_unpack_eq {bits : BitVec Format.binary64.numBits}
    (finite : UnpackedFloat.unpackExponent bits ≠ -1#11)
    (normal : UnpackedFloat.unpackExponent bits ≠ 0#11) :
    ∃ positive, UnpackedFloat.unpack Format.binary64 bits =
      .finite (.ofBitVec (unpackSign bits)) (1#1 ++ UnpackedFloat.unpackMantissa bits).toNat
        ((UnpackedFloat.unpackExponent bits).toNat - 1075) positive :=
  ⟨_, (if_neg finite).trans (if_neg normal)⟩

/-- A significand of 53 bits has its first bit left out, and an exponent in the range tells that it
had one. -/
theorem unpack_packComponents {significand biased : Nat} (positive : 0 < significand)
    (long : 2 ^ 52 ≤ significand) (short : significand < 2 ^ 53) (low : 0 < biased)
    (high : biased < 2047) :
    UnpackedFloat.unpack Format.binary64
        (packComponents Format.binary64 .positive (.ofNat 11 biased) (.ofNat 52 significand)) =
      .finite .positive significand (biased - 1075) positive := by
  have whole : (BitVec.ofNat 11 biased).toNat = biased := by
    rw [BitVec.toNat_ofNat, Nat.mod_eq_of_lt (Nat.lt_trans high (by decide))]
  have finite : BitVec.ofNat 11 biased ≠ -1#11 := by
    intro same
    have equal : biased = 2047 := whole.symm.trans (congrArg BitVec.toNat same)
    omega
  have normal : BitVec.ofNat 11 biased ≠ 0#11 := by
    intro same
    have equal : biased = 0 := whole.symm.trans (congrArg BitVec.toNat same)
    omega
  obtain ⟨some, shown⟩ := @exists_unpack_eq (packComponents Format.binary64 .positive
    (.ofNat 11 biased) (.ofNat 52 significand)) (by rwa [UnpackedFloat.unpackExponent_packComponents])
    (by rwa [UnpackedFloat.unpackExponent_packComponents])
  rw [shown, UnpackedFloat.finite.injEq, unpackSign_packComponents,
    UnpackedFloat.unpackMantissa_packComponents, UnpackedFloat.unpackExponent_packComponents, whole]
  exact ⟨rfl, toNat_leading long short, rfl⟩

theorem unpack_pack {significand : Nat} {scale : Int} (positive : 0 < significand)
    (long : 2 ^ 52 ≤ significand) (short : significand < 2 ^ 53) (low : -1074 ≤ scale)
    (high : scale ≤ 971) :
    (Float.Model.pack (.finite .positive significand scale positive)).unpack =
      .finite .positive significand scale positive := by
  have packed : UnpackedFloat.pack Format.binary64 (.finite .positive significand scale positive) =
      packComponents Format.binary64 .positive (.ofNat 11 (scale + 1023 + 52).toNat)
        (.ofNat 52 significand) := by
    rw [pack_finite, log2_of_long long short]
    exact (if_neg (by omega)).trans (if_pos rfl)
  change UnpackedFloat.unpack Format.binary64 (UnpackedFloat.pack Format.binary64 _) = _
  rw [packed, unpack_packComponents positive long short (by omega) (by omega),
    UnpackedFloat.finite.injEq]
  exact ⟨rfl, rfl, by omega⟩

/-- The value of a number with a significand of 53 bits lies between two powers of two. -/
theorem bounds_of_long {significand : Nat} (scale : Int) (long : 2 ^ 52 ≤ significand)
    (short : significand < 2 ^ 53) :
    (2 : ℚ) ^ (52 + scale) ≤ significand * 2 ^ scale ∧
      (significand : ℚ) * 2 ^ scale < 2 ^ (53 + scale) := by
  have least : (2 : ℚ) ^ (52 : Int) ≤ significand := by exact_mod_cast long
  have greatest : (significand : ℚ) < 2 ^ (53 : Int) := by exact_mod_cast short
  rw [zpow_add₀ two_ne_zero, zpow_add₀ two_ne_zero]
  exact ⟨mul_le_mul_of_nonneg_right least (two_zpow_pos scale).le,
    mul_lt_mul_of_pos_right greatest (two_zpow_pos scale)⟩

theorem IsLong.isInf_pack_iff {number : UnpackedFloat} {value : ℚ}
    (isLong : IsLong number value) :
    (Float.Model.pack number).isInf = true ↔ 2 ^ (1024 : Int) ≤ value := by
  obtain @⟨significand, scale, positive, long, short, low⟩ := isLong
  obtain ⟨least, greatest⟩ := bounds_of_long scale long short
  rcases lt_or_ge 971 scale with high | fits
  · refine iff_of_true ?_ ((two_zpow_le (by omega)).trans least)
    change (UnpackedFloat.unpack Format.binary64 (UnpackedFloat.pack Format.binary64 _)).isInf = true
    rw [pack_eq_infinity positive high]
    decide
  · refine iff_of_false ?_ (not_le.mpr (greatest.trans_le (two_zpow_le (by omega))))
    rw [Float.Model.isInf, unpack_pack positive long short low fits]
    exact Bool.false_ne_true

theorem IsLong.unpack_pack {number : UnpackedFloat} {value : ℚ} (isLong : IsLong number value)
    (fits : value < 2 ^ (1024 : Int)) : IsLong (Float.Model.pack number).unpack value := by
  obtain @⟨significand, scale, positive, long, short, low⟩ := isLong
  have least := (bounds_of_long scale long short).1
  have high : scale ≤ 971 := by
    by_contra wide
    exact absurd (two_zpow_le (by omega)) (not_le.mpr (least.trans_lt fits))
  rw [Binary64.unpack_pack positive long short low high]
  exact .intro positive long short low

theorem isLong_toFloat {word : UInt64} (positive : 0 < word.toNat) :
    IsLong word.toFloat.toModel.unpack (roundToSignificand word.toNat) := by
  have sign : compare (word.toNat : Int) 0 = .gt := Int.compare_eq_gt.mpr (by omega)
  change IsLong (Float.Model.pack (UnpackedFloat.ofInt Format.binary64 word.toNat)).unpack _
  rw [UnpackedFloat.ofInt, UnpackedFloat.normalize, sign]
  refine (isLong_round (Nat.ne_of_gt positive)).unpack_pack (roundToSignificand_lt ?_)
  exact word.toNat_lt.trans (by decide +kernel)

/-- Whether a number has a significand of 53 bits and is a given whole number. -/
def shows (whole : Nat) : UnpackedFloat → Bool
  | .finite .positive significand scale _ =>
    2 ^ 52 ≤ significand && significand < 2 ^ 53 && -52 ≤ scale &&
      significand * 2 ^ (scale + 52).toNat == whole * 2 ^ 52
  | _ => false

theorem isLong_of_shows {whole : Nat} {number : UnpackedFloat} (own : shows whole number = true) :
    IsLong number whole := by
  obtain ⟨significand, scale, positive, rfl⟩ : ∃ significand scale positive,
      number = .finite .positive significand scale positive := by
    match number with
    | .finite .positive significand scale positive => exact ⟨significand, scale, positive, rfl⟩
    | .finite .negative .. | .zero _ | .infinity _ | .notANumber => cases own
  change (decide (2 ^ 52 ≤ significand) && decide (significand < 2 ^ 53) && decide (-52 ≤ scale) &&
    significand * 2 ^ (scale + 52).toNat == whole * 2 ^ 52) = true at own
  simp only [Bool.and_eq_true, decide_eq_true_eq, beq_iff_eq] at own
  obtain ⟨⟨⟨long, short⟩, low⟩, same⟩ := own
  obtain ⟨steps, rfl⟩ : ∃ steps : Nat, scale = -52 + steps := ⟨(scale + 52).toNat, by omega⟩
  have value : (whole : ℚ) = significand * 2 ^ (-52 + steps : Int) := by
    have amount : (-52 + (steps : Int) + 52).toNat = steps := by omega
    rw [amount] at same
    have cast : (significand : ℚ) * 2 ^ steps = whole * 2 ^ 52 := by exact_mod_cast same
    rw [two_zpow_add, ← mul_assoc, cast, mul_assoc, ← two_zpow_add]
    norm_num
  rw [value]
  exact .intro positive long short (by omega)

theorem shows_ofScientific : ∀ power : Fin 23,
    shows (roundToSignificand (10 ^ power.val))
      (Float.ofScientific 1 false power).toModel.unpack = true := by
  decide +kernel

/-- The powers of ten up to the three hundred and eighth are turned into the nearest doubles. -/
theorem isLong_ofScientific {power : Nat} (small : power ≤ 308) :
    IsLong (Float.ofScientific 1 false power).toModel.unpack (roundToSignificand (10 ^ power)) := by
  rcases Nat.lt_or_ge power 23 with short | long
  · exact isLong_of_shows (shows_ofScientific ⟨power, short⟩)
  · have large : 2 ^ 52 ≤ 10 ^ power :=
      Nat.le_trans (by decide) (Nat.pow_le_pow_right (by decide) long)
    have positive : 10 ^ power ≠ 0 := by positivity
    have own := log2_eq_of_le large
    have bits : (10 ^ power * 2 ^ 53).log2 = 52 + ((10 ^ power).log2 + 1) := by
      rw [log2_mul_two_pow positive]
      omega
    have isLong := @isLong_roundWithAccuracy _ _ (-(53 : Nat)) bits (by omega)
    rw [cast_roundToSignificand_mul (roundToSignificand_mul own 53)] at isLong
    have below : 10 ^ power < overflow :=
      Nat.lt_of_le_of_lt (Nat.pow_le_pow_right (by decide) small) (by decide +kernel)
    rw [Float.ofScientific, dif_neg (by omega)]
    change IsLong (Float.Model.pack (UnpackedFloat.ofScientific Format.binary64 1 power)).unpack _
    refine IsLong.unpack_pack ?_ (roundToSignificand_lt below)
    have high : ¬ (power : Int) > 2 ^ Format.binary64.exponentBits := by
      change ¬ (power : Int) > 2048
      omega
    have low : ¬ (power : Int) < -(2 ^ Format.binary64.exponentBits + (Nat.log2 1 : Int)) := by
      change ¬ (power : Int) < -(2048 + 0)
      omega
    have filled : 1 <<< 53 * 10 ^ (power : Int).toNat = 10 ^ power * 2 ^ 53 := by
      rw [Int.toNat_natCast, Nat.shiftLeft_eq, one_mul, mul_comm]
    rw [UnpackedFloat.ofScientific, dif_neg one_ne_zero, if_neg high, if_neg low,
      if_pos (Int.natCast_nonneg power)]
    rw [← filled, ← add_zero (-((53 : Nat) : Int))] at isLong
    exact isLong

theorem lt_scale_of_one_le {significand : Nat} {scale : Int} (short : significand < 2 ^ 53)
    (large : (1 : ℚ) ≤ significand * 2 ^ scale) : -53 < scale := by
  by_contra tiny
  have below : (significand : ℚ) < 2 ^ 53 := by exact_mod_cast short
  have unit : (2 : ℚ) ^ scale ≤ 2 ^ (-53 : Int) := two_zpow_le (by omega)
  have none : (significand : ℚ) * 2 ^ scale < 2 ^ 53 * 2 ^ (-53 : Int) :=
    mul_lt_mul_of_lt_of_le_of_nonneg_of_pos below unit (Nat.cast_nonneg _) (two_zpow_pos _)
  rw [← two_zpow_add] at none
  norm_num at none
  linarith

theorem exists_log2_mul {first second : Nat} (firstLong : 2 ^ 52 ≤ first)
    (secondLong : 2 ^ 52 ≤ second) :
    ∃ places, (first * second).log2 = 52 + places ∧ 52 ≤ places := by
  have least : 2 ^ 104 ≤ first * second :=
    (pow_add 2 52 52).le.trans (Nat.mul_le_mul firstLong secondLong)
  have bits := (Nat.le_log2 (Nat.ne_of_gt (Nat.lt_of_lt_of_le (by decide) least))).mpr least
  exact ⟨(first * second).log2 - 52, by omega, by omega⟩

/-- The product of two doubles without a sign is infinite if it would be rounded to a power above
all doubles. -/
theorem isInf_mul_iff {left right : Float} {x y : ℚ} (first : IsLong left.toModel.unpack x)
    (second : IsLong right.toModel.unpack y) (firstLarge : 1 ≤ x) (secondLarge : 1 ≤ y) :
    (left * right).isInf = true ↔ (overflow : ℚ) ≤ x * y := by
  change (Float.Model.pack (UnpackedFloat.mul Format.binary64 left.toModel.unpack
    right.toModel.unpack)).isInf = true ↔ _
  generalize left.toModel.unpack = one at first
  generalize right.toModel.unpack = other at second
  obtain @⟨significand, scale, positive, long, short⟩ := first
  obtain @⟨factor, unit, factorPositive, factorLong, factorShort⟩ := second
  have low := lt_scale_of_one_le short firstLarge
  have factorLow := lt_scale_of_one_le factorShort secondLarge
  obtain ⟨places, bits, some⟩ := exists_log2_mul long factorLong
  have isLong := @isLong_roundWithAccuracy _ _ (scale + unit) bits (by omega)
  rw [mul_mul_mul_comm, ← zpow_add₀ two_ne_zero, ← Nat.cast_mul, ← le_roundToSignificand_iff bits]
  exact isLong.isInf_pack_iff

/-- A word times a power of ten is infinite if the product of the doubles nearest to them is rounded
to a power above all doubles. -/
theorem isInf_toFloat_mul_iff {word : UInt64} {power : Nat} (small : power ≤ 308) :
    (word.toFloat * Float.ofScientific 1 false power).isInf = true ↔
      overflow ≤ roundToSignificand word.toNat * roundToSignificand (10 ^ power) := by
  have ten := isLong_ofScientific small
  rcases Nat.eq_zero_or_pos word.toNat with zero | positive
  · have none : overflow ≠ 0 := by decide +kernel
    obtain rfl : word = 0 := UInt64.toNat_inj.mp zero
    refine iff_of_false ?_ (by simpa [roundToSignificand_of_lt] using none)
    have own : (0 : UInt64).toFloat.toModel.unpack = .zero .positive := rfl
    change ¬ (Float.Model.pack (UnpackedFloat.mul Format.binary64 (0 : UInt64).toFloat.toModel.unpack
      (Float.ofScientific 1 false power).toModel.unpack)).isInf = true
    rw [own]
    generalize (Float.ofScientific 1 false power).toModel.unpack = factor at ten
    generalize (roundToSignificand (10 ^ power) : ℚ) = value at ten
    cases ten
    change ¬ (Float.Model.pack (.zero .positive)).isInf = true
    decide
  · have large {whole : Nat} (positive : 0 < whole) : (1 : ℚ) ≤ roundToSignificand whole := by
      exact_mod_cast roundToSignificand_pos positive
    rw [isInf_mul_iff (isLong_toFloat positive) ten (large positive)
      (large (Nat.pow_pos (by decide)))]
    exact_mod_cast Iff.rfl

end GridDiffusion.Binary64
