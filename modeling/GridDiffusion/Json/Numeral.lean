import GridDiffusion.Number.Digits
import GridDiffusion.Number.Binary64
/-! Numerals of a document: their spelling, and the whole number or double that a spelling stands
for. A spelling that is never used as a number needs no value. -/
namespace GridDiffusion.Json

/-- A spelled number: digits before and after the point, and a signed power of ten. -/
structure Numeral where
  isNegative : Bool
  whole : List Nat
  fraction : List Nat
  exponent : Option Int
deriving DecidableEq, Repr

/-- A number of a document: whole numbers are kept apart from doubles. -/
inductive Number
  | int (value : Int)
  | float (value : Binary64)
deriving DecidableEq

def maxBelowZero : Nat := 0x8000000000000000

namespace Numeral

def takeDigits (characters : List Char) : List Nat × List Char :=
  (characters.takeWhile (digit? · |>.isSome) |>.filterMap digit?,
    characters.dropWhile (digit? · |>.isSome))

def takeFraction? : List Char → Option (List Nat × List Char)
  | '.' :: rest =>
    match takeDigits rest with
    | ([], _) => none
    | split => some split
  | rest => some ([], rest)

def takeExponent? : List Char → Option (Option Int)
  | [] => some none
  | mark :: rest =>
    if mark = 'e' ∨ mark = 'E' then
      match rest with
      | '-' :: digits => (Digits.read? digits).map fun size => some (-(size : Int))
      | '+' :: digits => (Digits.read? digits).map fun size => some (size : Int)
      | digits => (Digits.read? digits).map fun size => some (size : Int)
    else none

/-- Read a whole word as a numeral: no sign but a minus, no zero before another digit, and digits
on both sides of a point. -/
def ofWord? (word : List Char) : Option Numeral := do
  let (isNegative, unsigned) := match word with
    | '-' :: rest => (true, rest)
    | rest => (false, rest)
  let (whole, rest) := takeDigits unsigned
  guard (whole.head? != none && (whole.length = 1 || whole.head? != some 0))
  let (fraction, rest) ← takeFraction? rest
  let exponent ← takeExponent? rest
  pure { isNegative, whole, fraction, exponent }

/-- Take digits into a 64-bit significand up to the first that does not fit. Answer the
significand and the number of digits left out. -/
def accumulate (significand : Nat) : List Nat → Nat × Nat
  | [] => (significand, 0)
  | digit :: rest =>
    if significand * 10 + digit ≤ maxWord64 then accumulate (significand * 10 + digit) rest
    else (significand, rest.length + 1)

def powerOfTen (power : Nat) : Float := Float.ofScientific 1 false power

/-- A significand times a power of ten by one multiplication or by divisions, so that the last bit
may differ from the nearest double. Nothing where the magnitude overflows. -/
def scaled? (significand : Nat) (power : Int) : Option Float :=
  let start := significand.toUInt64.toFloat
  match power with
  | .ofNat up =>
    if up ≤ 308 then
      let result := start * powerOfTen up
      if result.isInf then none else some result
    else if significand = 0 then some 0 else none
  | .negSucc before =>
    let down := before + 1
    if down ≤ 308 then some (start / powerOfTen down)
    else if down ≤ 616 then some (start / powerOfTen 308 / powerOfTen (down - 308))
    else some 0

/-- The double that a numeral stands for, unless it overflows. Digits of a significand that do not
fit into 64 bits only move the point. -/
def double? (numeral : Numeral) : Option Binary64 :=
  let (whole, dropped) := accumulate 0 numeral.whole
  let (significand, ignored) := accumulate whole numeral.fraction
  let power := (dropped : Int) - ((numeral.fraction.length - ignored : Nat) : Int) +
    numeral.exponent.getD 0
  (scaled? significand power).map fun magnitude =>
    .ofFloat (if numeral.isNegative then -magnitude else magnitude)

def isPlain (numeral : Numeral) : Bool := numeral.fraction.isEmpty && numeral.exponent.isNone

/-- The value of a numeral: a plain one from the least signed to the greatest unsigned whole number
of 64 bits is that whole number, negative zero and all others are doubles. -/
def value? (numeral : Numeral) : Option Number :=
  let size := Digits.value 10 numeral.whole
  if numeral.isPlain && !numeral.isNegative && size ≤ maxWord64 then some (.int size)
  else if numeral.isPlain && numeral.isNegative && 0 < size && size ≤ maxBelowZero then
    some (.int (-(size : Int)))
  else numeral.double?.map .float

end Numeral
end GridDiffusion.Json
