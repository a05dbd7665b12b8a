import GridDiffusion.Number.Binary64
/-! The fewest decimal digits that still single out a double, and the two ways they are laid out. -/
namespace GridDiffusion

/-- A quotient of two whole numbers; the divisor is positive wherever one is built here. -/
structure Ratio where
  numerator : Nat
  divisor : Nat

namespace Ratio

/-- A whole number times a power of a base, exactly. -/
def ofScaled (base : Nat) (factor : Nat) (power : Int) : Ratio :=
  match power with
  | .ofNat up => ⟨factor * Nat.pow base up, 1⟩
  | .negSucc down => ⟨factor, Nat.pow base (down + 1)⟩

def le (left right : Ratio) : Bool :=
  left.numerator * right.divisor ≤ right.numerator * left.divisor

def lt (left right : Ratio) : Bool := !right.le left

def div (left right : Ratio) : Ratio :=
  ⟨left.numerator * right.divisor, left.divisor * right.numerator⟩

def floor (ratio : Ratio) : Nat := ratio.numerator / ratio.divisor

end Ratio

/-- A decimal number: digits, and the power of ten by which they count. -/
structure Decimal where
  digits : Nat
  power : Int
deriving DecidableEq, Repr

namespace Decimal

def ratio (decimal : Decimal) : Ratio := .ofScaled 10 decimal.digits decimal.power

def trimmed (decimal : Decimal) : Decimal :=
  go decimal.digits decimal.digits decimal.power
where
  go : Nat → Nat → Int → Decimal
    | fuel + 1, digits, power =>
      if digits % 10 = 0 then go fuel (digits / 10) (power + 1) else ⟨digits, power⟩
    | 0, digits, power => ⟨digits, power⟩

end Decimal

namespace Binary64

def magnitude (value : Binary64) : Ratio := .ofScaled 2 value.significand value.scale

/-- Where the numbers begin that round to a finite double: half a step below it, or a quarter
where the steps below are half as wide. -/
def roundingLow (value : Binary64) : Ratio :=
  let below := if value.isLowerBoundaryCloser then 1 else 2
  .ofScaled 2 (4 * value.significand - below) (value.scale - 2)

/-- Where the numbers end that round to a finite double: half a step above it. -/
def roundingHigh (value : Binary64) : Ratio :=
  .ofScaled 2 (4 * value.significand + 2) (value.scale - 2)

/-- Whether a number rounds to the double: the two ends do when its significand is even. -/
def readsBack (value : Binary64) (candidate : Ratio) : Bool :=
  if value.significand % 2 = 0 then
    value.roundingLow.le candidate && candidate.le value.roundingHigh
  else value.roundingLow.lt candidate && candidate.lt value.roundingHigh

/-- The power of ten of the leading digit: the largest one that is not above the magnitude. -/
def leadingPower (value : Binary64) : Int :=
  go 650 308
where
  go : Nat → Int → Int
    | fuel + 1, power =>
      if (Ratio.ofScaled 10 1 power).le value.magnitude then power else go fuel (power - 1)
    | 0, power => power

/-- The decimal on the grid of one power of ten that reads back as the double. Of its two
neighbours on the grid the nearer one is taken, and of two equally near the even one. -/
def onGrid? (value : Binary64) (power : Int) : Option Decimal :=
  let exact := value.magnitude
  let below := (exact.div (.ofScaled 10 1 power)).floor
  let low : Decimal := ⟨below, power⟩
  let high : Decimal := ⟨below + 1, power⟩
  match value.readsBack low.ratio, value.readsBack high.ratio with
  | true, true =>
    let middle := Ratio.ofScaled 10 (10 * below + 5) (power - 1)
    if exact.lt middle then some low
    else if middle.lt exact then some high
    else some (if below % 2 = 0 then low else high)
  | true, false => some low
  | false, true => some high
  | false, false => none

/-- The decimal with the fewest digits that reads back as a finite double's magnitude. Seventeen
digits always suffice. -/
def shortest (value : Binary64) : Decimal :=
  if value.significand = 0 then ⟨0, 0⟩
  else
    let leading := value.leadingPower
    let grids := (List.range 17).map fun extra : Nat => leading - (extra : Int)
    match grids.findSome? value.onGrid? with
    | some decimal => decimal.trimmed
    | none => ⟨(value.magnitude.div (.ofScaled 10 1 (leading - 16))).floor, leading - 16⟩

end Binary64

structure FloatLayout where
  /-- The leading powers of ten that are written with a point and zeros instead of an exponent. -/
  isPositional : Int → Bool
  wholeSuffix : String

namespace FloatLayout

/-- Document numbers: an exponent from ten to the sixteenth up and below a hundred thousandth, and
always a point or an exponent. -/
def document : FloatLayout := ⟨fun power => -5 ≤ power && power < 16, ".0"⟩

/-- Plain numbers: never an exponent, and a point only where digits follow it. -/
def plain : FloatLayout := ⟨fun _ => true, ""⟩

def zeros (count : Nat) : String := String.ofList (List.replicate count '0')

def positional (layout : FloatLayout) (digits : List Char) (power : Int) : String :=
  match power with
  | .ofNat up => String.ofList digits ++ zeros up ++ layout.wholeSuffix
  | .negSucc down =>
    let places := down + 1
    if places < digits.length then
      String.ofList (digits.take (digits.length - places)) ++ "." ++
        String.ofList (digits.drop (digits.length - places))
    else "0." ++ zeros (places - digits.length) ++ String.ofList digits

def exponential (digits : List Char) (leading : Int) : String :=
  let mantissa := match digits with
    | first :: second :: rest => String.ofList (first :: '.' :: second :: rest)
    | short => String.ofList short
  mantissa ++ "e" ++ (if leading < 0 then "-" else "+") ++ leading.natAbs.repr

/-- The text of a double: its sign and the fewest digits that read back. -/
def text (layout : FloatLayout) (value : Binary64) : String :=
  if value.isNaN then "NaN"
  else
    (if value.isNegative then "-" else "") ++
      if !value.isFinite then "inf"
      else if value.significand = 0 then "0" ++ layout.wholeSuffix
      else
        let decimal := value.shortest
        let digits := Nat.toDigits 10 decimal.digits
        let leading := decimal.power + (digits.length : Int) - 1
        if layout.isPositional leading then layout.positional digits decimal.power
        else exponential digits leading

end FloatLayout
end GridDiffusion
