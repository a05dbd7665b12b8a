import GridDiffusion.Text.Blank
/-! Texts between quotes for a reader's eye: what cannot be seen is spelled out. -/
namespace GridDiffusion

/-- Ranges of code points that leave no mark of their own, ends included: controls, joiners and
marks of direction, combining marks, and what is private or unassigned by design. -/
def markless : List (Nat × Nat) :=
  [(0x00, 0x1F), (0x7F, 0x9F), (0xAD, 0xAD), (0x300, 0x36F), (0x200B, 0x200F), (0x202A, 0x202E),
    (0x2060, 0x206F), (0x20D0, 0x20F0), (0xFE00, 0xFE0F), (0xFE20, 0xFE2F), (0xFEFF, 0xFEFF),
    (0xE000, 0xF8FF), (0xFFF0, 0xFFFB), (0xFFFE, 0xFFFF), (0xE0000, 0x10FFFF)]

/-- Whether a character is spelled by its code point inside quotes. -/
def isSpelledOut (character : Char) : Bool :=
  (isBlank character && character ≠ ' ') ||
    markless.any fun range => range.1 ≤ character.toNat && character.toNat ≤ range.2

namespace Text

def quotedCharacter (character : Char) : String :=
  match character with
  | '\x00' => "\\0"
  | '\t' => "\\t"
  | '\n' => "\\n"
  | '\r' => "\\r"
  | '"' => "\\\""
  | '\'' => "\\'"
  | '\\' => "\\\\"
  | _ =>
    if isSpelledOut character then
      "\\u\x7b" ++ String.ofList (Nat.toDigits 16 character.toNat) ++ "\x7d"
    else character.toString

def quoted (text : String) : String :=
  "\"" ++ String.join (text.toList.map quotedCharacter) ++ "\""

end Text
end GridDiffusion
