import GridDiffusion.Grid.AddressText
import GridDiffusion.Number.Binary64
/-! The values that a command line or an environment variable may spell. -/
namespace GridDiffusion.CommandLine

/-- The value of a natural number, which may have a plus sign and zeros in front. -/
def readUnsigned? (high : Nat) (text : String) : Option Nat :=
  let digits := match text.toList with
    | '+' :: rest => rest
    | characters => characters
  (Digits.read? digits).bind fun value => if value ≤ high then some value else none

def readSigned? (low high : Int) (text : String) : Option Int :=
  let magnitude := match text.toList with
    | '+' :: rest | '-' :: rest => Digits.read? rest
    | characters => Digits.read? characters
  magnitude.bind fun size =>
    let value : Int := if text.startsWith "-" then -size else size
    if low ≤ value ∧ value ≤ high then some value else none

def nearestDouble (digits : Nat) (power : Int) : Float :=
  let leading := power + (Nat.toDigits 10 digits).length
  if digits = 0 then 0
  else if leading > 400 then Float.ofScientific 1 false 400
  else if leading < -400 then 0
  else Float.ofScientific digits (power < 0) power.natAbs

private def readExponent? : List Char → Option Int
  | [] => some 0
  | mark :: rest =>
    if mark.toLower = 'e' then
      readSigned? (-1000000000000000000) 1000000000000000000 (String.ofList rest)
    else none

/-- The value of a decimal number: digits, a point among or beside them, and an exponent. -/
private def readDecimal? (characters : List Char) : Option Float := do
  let isDigit := fun character => (digit? character).isSome
  let whole := characters.takeWhile isDigit
  let rest := characters.dropWhile isDigit
  let (fraction, rest) := match rest with
    | '.' :: rest => (rest.takeWhile isDigit, rest.dropWhile isDigit)
    | _ => ([], rest)
  let exponent ← readExponent? rest
  let digits ← Digits.read? (whole ++ fraction)
  pure (nearestDouble digits (exponent - fraction.length))

/-- The value of a decimal number, an infinity or no number, with an optional sign. -/
def readReal? (text : String) : Option Float :=
  let (isNegative, unsigned) := match text.toList with
    | '-' :: rest => (true, rest)
    | '+' :: rest => (false, rest)
    | characters => (false, characters)
  let word := String.ofList (unsigned.map Char.toLower)
  let magnitude :=
    if word = "inf" ∨ word = "infinity" then some (1 / 0)
    else if word = "nan" then some (0 / 0)
    else readDecimal? unsigned
  magnitude.map fun value => if isNegative then -value else value

inductive ValueKind
  | text
  /-- A path, which is not empty. -/
  | path
  | address
  /-- A whole number of 64 bits with a sign, in a range. -/
  | signed (low high : Int)
  /-- A whole number of 64 bits without a sign. -/
  | unsigned
  | real
deriving DecidableEq

def ValueKind.word16 : ValueKind := .signed 0 0xFFFF

def ValueKind.word32 : ValueKind := .signed 0 0xFFFFFFFF

def ValueKind.int64 : ValueKind := .signed Int64.minValue.toInt Int64.maxValue.toInt

def ValueKind.accepts (text : String) : ValueKind → Bool
  | .text => true
  | .path => !text.isEmpty
  | .address => (Address.ofText? text).isSome
  | .signed low high => (readSigned? low high text).isSome
  | .unsigned => (readUnsigned? maxWord64 text).isSome
  | .real => (readReal? text).isSome

end GridDiffusion.CommandLine
