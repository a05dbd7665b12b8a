import GridDiffusion.Number.FixedPlaces
/-! Shares: doubles from zero to one, and how many of a number of things they stand for. -/
namespace GridDiffusion

/-- The number nearest to a whole number among those with a significand of 53 bits, the one with an
even significand of two that are equally near. -/
def roundToSignificand (whole : Nat) : Nat :=
  let step := Nat.pow 2 (whole.log2 - 52)
  Ratio.roundHalfEven ⟨whole, step⟩ * step

namespace Binary64

/-- Whether a double lies between zero and one, ends included. Negative zero is zero. -/
def isShare (value : Binary64) : Bool :=
  value.isFinite &&
    (value.significand == 0 || !value.isNegative && value.magnitude.le ⟨1, 1⟩)

/-- The share of a count, rounded down after the product has been rounded to a double. -/
def shareOf (share : Binary64) (count : Nat) : Nat :=
  (Ratio.ofScaled 2 (roundToSignificand (count * share.significand)) share.scale).floor

end Binary64
end GridDiffusion
