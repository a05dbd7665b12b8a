import GridDiffusion.Number.Digits
/-! Spelled strings of a document: the bytes between two quotes, when they are well formed, and
the text they stand for. -/
namespace GridDiffusion.Json

/-- The bytes between the quotes of a string, escapes and all. -/
abbrev Spelling := List UInt8

namespace Spelling

def character (byte : UInt8) : Char := Char.ofNat byte.toNat

def shortEscape? (letter : UInt8) : Option UInt8 :=
  match character letter with
  | '"' => some letter
  | '\\' => some letter
  | '/' => some letter
  | 'b' => some 0x08
  | 'f' => some 0x0C
  | 'n' => some 0x0A
  | 'r' => some 0x0D
  | 't' => some 0x09
  | _ => none

def unit? (first second third fourth : UInt8) : Option Nat :=
  ([first, second, third, fourth].mapM (hexDigit? ∘ character)).map (Digits.value 16)

/-- Whether every escape is complete and no control character stands bare. -/
def isWellFormed : Spelling → Bool
  | 0x5C :: 0x75 :: first :: second :: third :: fourth :: rest =>
    (unit? first second third fourth).isSome && isWellFormed rest
  | 0x5C :: letter :: rest => (shortEscape? letter).isSome && isWellFormed rest
  | byte :: rest => byte ≥ 0x20 && byte != 0x5C && isWellFormed rest
  | [] => true

/-- Spell out a code point in bytes, the last one first, before what was spelled so far. -/
def pushScalar (scalar : Nat) (reversed : List UInt8) : List UInt8 :=
  (String.utf8EncodeChar (Char.ofNat scalar)).reverseAux reversed

/-- Replace each escape by the bytes it stands for, collecting them in reverse. A unit of the first
surrogate half must be followed by one of the second. -/
def unescape? (reversed : List UInt8) : Spelling → Option (List UInt8)
  | 0x5C :: 0x75 :: first :: second :: third :: fourth :: rest =>
    match unit? first second third fourth with
    | none => none
    | some unit =>
      if unit < 0xD800 ∨ 0xDFFF < unit then unescape? (pushScalar unit reversed) rest
      else if 0xDBFF < unit then none
      else
        match rest with
        | 0x5C :: 0x75 :: fifth :: sixth :: seventh :: eighth :: rest =>
          match unit? fifth sixth seventh eighth with
          | none => none
          | some low =>
            if low < 0xDC00 ∨ 0xDFFF < low then none
            else
              let scalar := 0x10000 + (unit - 0xD800) * 0x400 + (low - 0xDC00)
              unescape? (pushScalar scalar reversed) rest
        | _ => none
  | 0x5C :: letter :: rest =>
    match shortEscape? letter with
    | none => none
    | some byte => unescape? (byte :: reversed) rest
  | byte :: rest =>
    if byte ≥ 0x20 ∧ byte ≠ 0x5C then unescape? (byte :: reversed) rest else none
  | [] => some reversed.reverse

def text? (spelling : Spelling) : Option String :=
  (unescape? [] spelling).bind fun bytes => String.fromUTF8? bytes.toByteArray

end Spelling
end GridDiffusion.Json
