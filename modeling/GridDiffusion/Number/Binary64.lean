/-! Double-precision numbers by their bits: the exact value of a finite one, and its order. -/
namespace GridDiffusion

/-- A double-precision number, told apart by its 64 bits. -/
structure Binary64 where
  bits : UInt64
deriving DecidableEq, Inhabited

namespace Binary64

def ofFloat (value : Float) : Binary64 := ⟨value.toBits⟩

def toFloat (value : Binary64) : Float := Float.ofBits value.bits

def signUnit : Nat := 0x8000000000000000

/-- What the lowest bit of the exponent counts: two to the fifty-second. -/
def exponentUnit : Nat := 0x10000000000000

/-- Whether the sign bit is set; negative zero has it too. -/
def isNegative (value : Binary64) : Bool := signUnit ≤ value.bits.toNat

def biasedExponent (value : Binary64) : Nat := value.bits.toNat / exponentUnit % 0x800

def fractionBits (value : Binary64) : Nat := value.bits.toNat % exponentUnit

def isFinite (value : Binary64) : Bool := value.biasedExponent != 0x7FF

def isNaN (value : Binary64) : Bool := !value.isFinite && value.fractionBits != 0

/-- The whole number that, times two to the `scale`, is a finite magnitude. -/
def significand (value : Binary64) : Nat :=
  if value.biasedExponent = 0 then value.fractionBits else exponentUnit + value.fractionBits

/-- The power of two by which the significand counts. -/
def scale (value : Binary64) : Int := (max value.biasedExponent 1 : Nat) - 1075

/-- Whether the double below this one is only half as far away as the one above. -/
def isLowerBoundaryCloser (value : Binary64) : Bool :=
  value.fractionBits == 0 && value.biasedExponent > 1

def hexadecimal (value : Binary64) : String :=
  let digits := Nat.toDigits 16 value.bits.toNat
  String.ofList (List.replicate (16 - digits.length) '0' ++ digits)

end Binary64
end GridDiffusion
