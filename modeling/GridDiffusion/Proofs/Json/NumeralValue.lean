import GridDiffusion.Proofs.Json.NumeralText
import GridDiffusion.Proofs.Number.Product
/-! What numerals stand for: whole numbers of 64 bits, doubles, or nothing where they lie above all
doubles. -/
namespace GridDiffusion.Json.Numeral

def appendDigits (before : Nat) (digits : List Nat) : Nat :=
  digits.foldl (fun total digit => total * 10 + digit) before

/-- Digits are taken behind a number up to the first that would not fit into 64 bits. -/
structure Takes (before : Nat) (digits : List Nat) (significand : Nat) (left : List Nat) : Prop where
  taken : ∃ kept, digits = kept ++ left ∧ significand = appendDigits before kept
  fits : significand ≤ maxWord64
  full : ∀ digit ∈ left.head?, maxWord64 < significand * 10 + digit

/-- A numeral as a significand of 64 bits and a power of ten. Digits that do not fit only move the
point. -/
inductive IsScaled (numeral : Numeral) (significand : Nat) : Int → Prop
  | intro {whole : Nat} {dropped ignored : List Nat} (front : Takes 0 numeral.whole whole dropped)
    (behind : Takes whole numeral.fraction significand ignored) :
    IsScaled numeral significand (dropped.length -
      (numeral.fraction.length - ignored.length : Nat) + numeral.exponent.getD 0)

/-- A significand with too large a power of ten: the product of the doubles nearest to both is
rounded to the power of two above all doubles, or the power is above all doubles itself. -/
def Exceeds (significand : Nat) (power : Int) : Prop :=
  if power ≤ 308 then
    0 ≤ power ∧ Binary64.overflow ≤
      roundToSignificand significand * roundToSignificand (10 ^ power.toNat)
  else significand ≠ 0

def Overflows (numeral : Numeral) : Prop :=
  ∃ significand power, numeral.IsScaled significand power ∧ Exceeds significand power

/-- The double of a significand and a power of ten, by one product or by quotients of doubles. -/
inductive Scales (significand : Nat) : Int → Float → Prop
  | product {power : Nat} (fits : ¬ Exceeds significand power) (short : power ≤ 308) :
    Scales significand power (significand.toUInt64.toFloat * powerOfTen power)
  | zero {power : Nat} (fits : ¬ Exceeds significand power) (long : 308 < power) :
    Scales significand power 0
  | quotient {power : Nat} (some : 0 < power) (short : power ≤ 308) :
    Scales significand (-power) (significand.toUInt64.toFloat / powerOfTen power)
  | quotients {power : Nat} (long : 308 < power) (short : power ≤ 616) :
    Scales significand (-power)
      (significand.toUInt64.toFloat / powerOfTen 308 / powerOfTen (power - 308))
  | vanished {power : Nat} (long : 616 < power) : Scales significand (-power) 0

/-- A numeral stands for a whole number of 64 bits if it is one, and for a double otherwise. -/
inductive Denotes (numeral : Numeral) : Number → Prop
  | int {value : Int} (whole : numeral.IsWhole value) (low : -(maxBelowZero : Int) ≤ value)
    (high : value ≤ maxWord64) : Denotes numeral (.int value)
  | float {significand : Nat} {power : Int} {magnitude : Float}
    (none : ∀ value, numeral.IsWhole value →
      ¬ (-(maxBelowZero : Int) ≤ value ∧ value ≤ maxWord64))
    (scaled : numeral.IsScaled significand power) (scales : Scales significand power magnitude) :
    Denotes numeral (.float (.ofFloat (if numeral.isNegative then -magnitude else magnitude)))

variable {before significand : Nat} {digits left : List Nat} {numeral : Numeral} {power : Int}

theorem le_appendDigits (before : Nat) (digits : List Nat) : before ≤ appendDigits before digits := by
  induction digits generalizing before with
  | nil => exact Nat.le_refl _
  | cons digit rest ih => exact Nat.le_trans (by omega) (ih (before * 10 + digit))

theorem Takes.accumulate_eq (takes : Takes before digits significand left) :
    accumulate before digits = (significand, left.length) := by
  obtain ⟨⟨kept, rfl, rfl⟩, fits, full⟩ := takes
  induction kept generalizing before with
  | nil =>
    cases left with
    | nil => rfl
    | cons digit rest =>
      have large : maxWord64 < before * 10 + digit := full digit rfl
      exact if_neg (Nat.not_le_of_gt large)
  | cons digit kept ih =>
    have more : before * 10 + digit ≤ maxWord64 := Nat.le_trans (le_appendDigits _ kept) fits
    rw [List.cons_append, accumulate, if_pos more]
    exact ih fits full

theorem exists_takes (fits : before ≤ maxWord64) (digits : List Nat) :
    ∃ significand left, Takes before digits significand left := by
  induction digits generalizing before with
  | nil => exact ⟨before, [], ⟨[], rfl, rfl⟩, fits, nofun⟩
  | cons digit rest ih =>
    by_cases more : before * 10 + digit ≤ maxWord64
    · obtain ⟨significand, left, ⟨kept, split, same⟩, fits, full⟩ := ih more
      exact ⟨significand, left, ⟨digit :: kept, by rw [split]; rfl, same⟩, fits, full⟩
    · refine ⟨before, digit :: rest, ⟨[], rfl, rfl⟩, fits, fun other first => ?_⟩
      cases first
      exact Nat.lt_of_not_le more

theorem exists_isScaled (numeral : Numeral) :
    ∃ significand power, numeral.IsScaled significand power := by
  obtain ⟨whole, dropped, front⟩ := exists_takes (Nat.zero_le _) numeral.whole
  obtain ⟨significand, ignored, behind⟩ := exists_takes front.fits numeral.fraction
  exact ⟨significand, _, .intro front behind⟩

theorem IsScaled.double?_eq (scaled : numeral.IsScaled significand power) :
    numeral.double? = (scaled? significand power).map fun magnitude =>
      .ofFloat (if numeral.isNegative then -magnitude else magnitude) := by
  obtain ⟨front, behind⟩ := scaled
  simp only [double?, front.accumulate_eq, behind.accumulate_eq]

theorem IsScaled.unique {other : Nat} {otherPower : Int}
    (scaled : numeral.IsScaled significand power) (again : numeral.IsScaled other otherPower) :
    significand = other ∧ power = otherPower := by
  obtain ⟨front, behind⟩ := scaled
  obtain ⟨otherFront, otherBehind⟩ := again
  have first := front.accumulate_eq.symm.trans otherFront.accumulate_eq
  simp only [Prod.mk.injEq] at first
  obtain ⟨rfl, dropped⟩ := first
  have second := behind.accumulate_eq.symm.trans otherBehind.accumulate_eq
  simp only [Prod.mk.injEq] at second
  exact ⟨second.1, by rw [dropped, second.2]⟩

theorem IsScaled.le (scaled : numeral.IsScaled significand power) : significand ≤ maxWord64 := by
  obtain ⟨-, behind⟩ := scaled
  exact behind.fits

theorem scaled?_eq_none_iff (fits : significand ≤ maxWord64) :
    scaled? significand power = none ↔ Exceeds significand power := by
  have word : significand.toUInt64.toNat = significand := by
    rw [Nat.toUInt64_eq]
    exact UInt64.toNat_ofNat_of_lt' (Nat.lt_succ_of_le fits)
  cases power with
  | negSucc before =>
    refine iff_of_false ?_ ?_
    · rw [scaled?]
      split_ifs <;> exact id
    · rw [Exceeds, if_pos (by omega)]
      omega
  | ofNat up =>
    rw [scaled?, Exceeds]
    by_cases short : up ≤ 308
    · have infinite := @Binary64.isInf_toFloat_mul_iff significand.toUInt64 up short
      rw [word] at infinite
      simp [short, powerOfTen, infinite]
    · simp [short]

theorem scales_of_scaled? {magnitude : Float} (inside : ¬ Exceeds significand power)
    (read : scaled? significand power = some magnitude) : Scales significand power magnitude := by
  cases power with
  | ofNat up =>
    rw [scaled?] at read
    split at read
    next short =>
      obtain ⟨-, same⟩ := Option.ite_none_left_eq_some.mp read
      cases same
      exact .product inside short
    next long =>
      obtain ⟨-, same⟩ := Option.ite_none_right_eq_some.mp read
      cases same
      exact .zero inside (Nat.lt_of_not_le long)
  | negSucc before =>
    rw [scaled?] at read
    split at read
    next short =>
      cases read
      exact .quotient before.succ_pos short
    split at read
    next long short =>
      cases read
      exact .quotients (Nat.lt_of_not_le long) short
    next long =>
      cases read
      exact .vanished (Nat.lt_of_not_le long)

theorem Scales.scaled?_eq {magnitude : Float} (fits : significand ≤ maxWord64)
    (scales : Scales significand power magnitude) :
    scaled? significand power = some magnitude := by
  have finite (inside : ¬ Exceeds significand power) : scaled? significand power ≠ none :=
    mt (scaled?_eq_none_iff fits).mp inside
  cases scales with
  | @product up inside short =>
    have some := finite inside
    change scaled? significand (.ofNat up) ≠ none at some
    change scaled? significand (.ofNat up) = _
    rw [scaled?, if_pos short] at some ⊢
    exact if_neg fun infinite => some (if_pos infinite)
  | @zero up inside long =>
    have some := finite inside
    change scaled? significand (.ofNat up) ≠ none at some
    change scaled? significand (.ofNat up) = _
    rw [scaled?, if_neg (Nat.not_le_of_lt long)] at some ⊢
    by_contra other
    exact some (if_neg fun zero => other (if_pos zero))
  | @quotient down positive short =>
    obtain ⟨before, rfl⟩ := Nat.exists_eq_add_one.mpr positive
    change scaled? significand (.negSucc before) = _
    rw [scaled?, if_pos short]
  | @quotients down long short =>
    obtain ⟨before, rfl⟩ := Nat.exists_eq_add_one.mpr (Nat.zero_lt_of_lt long)
    change scaled? significand (.negSucc before) = _
    rw [scaled?, if_neg (Nat.not_le_of_lt long), if_pos short]
  | @vanished down long =>
    obtain ⟨before, rfl⟩ := Nat.exists_eq_add_one.mpr (Nat.zero_lt_of_lt long)
    change scaled? significand (.negSucc before) = _
    rw [scaled?, if_neg (by omega), if_neg (Nat.not_le_of_lt long)]

/-- A whole number of 64 bits takes all its digits, so its power of ten is one. -/
theorem IsWhole.isScaled {value : Int} (whole : numeral.IsWhole value)
    (low : -(maxBelowZero : Int) ≤ value) (high : value ≤ maxWord64) :
    numeral.IsScaled (Digits.value 10 numeral.whole) 0 := by
  obtain ⟨⟨fraction, exponent⟩, size, -⟩ := whole
  have fits : Digits.value 10 numeral.whole ≤ maxWord64 := by
    have below : maxBelowZero ≤ maxWord64 := by decide
    split at size <;> omega
  have front : Takes 0 numeral.whole (Digits.value 10 numeral.whole) [] :=
    ⟨⟨numeral.whole, (List.append_nil _).symm, rfl⟩, fits, nofun⟩
  have behind : Takes (Digits.value 10 numeral.whole) numeral.fraction
      (Digits.value 10 numeral.whole) [] :=
    ⟨⟨[], by rw [fraction, List.append_nil], rfl⟩, fits, nofun⟩
  have scaled : numeral.IsScaled (Digits.value 10 numeral.whole) _ := .intro front behind
  simpa [fraction, exponent] using scaled

theorem not_exceeds_zero (fits : significand ≤ maxWord64) : ¬ Exceeds significand 0 := by
  rw [Exceeds, if_pos (by decide)]
  rintro ⟨-, large⟩
  have bound := Binary64.roundToSignificand_le significand
  have one : roundToSignificand (10 ^ (0 : Int).toNat) = 1 :=
    Binary64.roundToSignificand_of_lt (by decide)
  have limit : 2 * maxWord64 < Binary64.overflow := by decide +kernel
  rw [one] at large
  omega

theorem value?_eq_double? (none : ∀ value, numeral.value? ≠ some (.int value)) :
    numeral.value? = numeral.double?.map .float := by
  unfold value? at none ⊢
  dsimp only at none ⊢
  split at none
  · exact absurd rfl (none _)
  split at none
  · exact absurd rfl (none _)
  next unsigned signed => rw [if_neg unsigned, if_neg signed]

theorem value?_eq_none_iff : numeral.value? = none ↔ numeral.Overflows := by
  obtain ⟨significand, power, scaled⟩ := numeral.exists_isScaled
  have only : numeral.Overflows ↔ Exceeds significand power := by
    refine ⟨fun ⟨other, otherPower, again, exceeds⟩ => ?_, fun exceeds => ⟨_, _, scaled, exceeds⟩⟩
    obtain ⟨rfl, rfl⟩ := scaled.unique again
    exact exceeds
  rw [only]
  by_cases exists_int : ∃ value, numeral.value? = some (.int value)
  · obtain ⟨value, found⟩ := exists_int
    obtain ⟨whole, low, high⟩ := value?_eq_int_iff.mp found
    obtain ⟨rfl, rfl⟩ := scaled.unique (whole.isScaled low high)
    exact iff_of_false (by rw [found]; exact Option.some_ne_none _) (not_exceeds_zero scaled.le)
  · rw [value?_eq_double? (fun value found => exists_int ⟨value, found⟩), scaled.double?_eq,
      Option.map_map, Option.map_eq_none_iff, scaled?_eq_none_iff scaled.le]

theorem value?_eq_some_iff {number : Number} :
    numeral.value? = some number ↔ numeral.Denotes number := by
  constructor
  · intro read
    cases number with
    | int value =>
      obtain ⟨whole, low, high⟩ := value?_eq_int_iff.mp read
      exact .int whole low high
    | float double =>
      have none (value : Int) : numeral.value? ≠ some (.int value) := by
        rw [read]
        exact nofun
      obtain ⟨significand, power, scaled⟩ := numeral.exists_isScaled
      rw [value?_eq_double? none, scaled.double?_eq, Option.map_map] at read
      obtain ⟨magnitude, found, same⟩ := Option.map_eq_some_iff.mp read
      cases same
      have inside : ¬ Exceeds significand power := fun exceeds => by
        rw [(scaled?_eq_none_iff scaled.le).mpr exceeds] at found
        cases found
      exact .float (fun value whole range => none value (value?_eq_int_iff.mpr ⟨whole, range⟩))
        scaled (scales_of_scaled? inside found)
  · intro denotes
    cases denotes with
    | int whole low high => exact value?_eq_int_iff.mpr ⟨whole, low, high⟩
    | float none scaled scales =>
      have absent (value : Int) : numeral.value? ≠ some (.int value) := fun found =>
        none value (value?_eq_int_iff.mp found).1 (value?_eq_int_iff.mp found).2
      rw [value?_eq_double? absent, scaled.double?_eq, scales.scaled?_eq scaled.le]
      rfl

end GridDiffusion.Json.Numeral
