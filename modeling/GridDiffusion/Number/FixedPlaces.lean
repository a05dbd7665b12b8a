import GridDiffusion.Number.Digits
import GridDiffusion.Number.Shortest
/-! A double rounded to a fixed number of decimal places, from its exact value. -/
namespace GridDiffusion

/-- The whole number nearest to a quotient, the even one of two that are equally near. -/
def Ratio.roundHalfEven (ratio : Ratio) : Nat :=
  let whole := ratio.numerator / ratio.divisor
  let rest := ratio.numerator % ratio.divisor
  if 2 * rest < ratio.divisor then whole
  else if ratio.divisor < 2 * rest then whole + 1
  else if whole % 2 = 0 then whole else whole + 1

/-- A finite double with a fixed number of decimal places, at least one. -/
def Binary64.fixedPlaces (places : Nat) (value : Binary64) : String :=
  let exact := value.magnitude
  let unit := Nat.pow 10 places
  let scaled := Ratio.roundHalfEven ⟨exact.numerator * unit, exact.divisor⟩
  (if value.isNegative then "-" else "") ++ (scaled / unit).repr ++ "." ++
    Digits.padded places (scaled % unit)

end GridDiffusion
