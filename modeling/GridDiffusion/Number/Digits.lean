/-! Decimal digit strings as values: the number that a row of digits spells. -/
namespace GridDiffusion

def maxWord64 : Nat := 0xFFFFFFFFFFFFFFFF

def digit? (character : Char) : Option Nat :=
  if '0' ≤ character ∧ character ≤ '9' then some (character.toNat - '0'.toNat) else none

def hexDigit? (character : Char) : Option Nat :=
  if '0' ≤ character ∧ character ≤ '9' then some (character.toNat - '0'.toNat)
  else if 'a' ≤ character ∧ character ≤ 'f' then some (character.toNat - 'a'.toNat + 10)
  else if 'A' ≤ character ∧ character ≤ 'F' then some (character.toNat - 'A'.toNat + 10)
  else none

def Digits.value (base : Nat) (digits : List Nat) : Nat :=
  digits.foldl (fun total digit => total * base + digit) 0

/-- Read a whole text as decimal digits, at least one of them; leading zeros do not matter. -/
def Digits.read? (characters : List Char) : Option Nat :=
  if characters.isEmpty then none else (characters.mapM digit?).map (Digits.value 10)

def Digits.padded (width value : Nat) : String :=
  let plain := value.repr
  String.ofList (List.replicate (width - plain.length) '0') ++ plain

end GridDiffusion
