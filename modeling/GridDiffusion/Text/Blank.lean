/-! The characters with the Unicode property `White_Space`, and texts that hold nothing else. -/
namespace GridDiffusion

/-- The ranges of code points with the Unicode property `White_Space`, ends included. -/
def blankRanges : List (Nat × Nat) :=
  [(0x09, 0x0D), (0x20, 0x20), (0x85, 0x85), (0xA0, 0xA0), (0x1680, 0x1680), (0x2000, 0x200A),
    (0x2028, 0x2029), (0x202F, 0x202F), (0x205F, 0x205F), (0x3000, 0x3000)]

def isBlank (character : Char) : Bool :=
  blankRanges.any fun range => range.1 ≤ character.toNat && character.toNat ≤ range.2

/-- A text is blank when every character of it is; the empty text is blank. -/
def Text.isBlank (text : String) : Bool := text.toList.all GridDiffusion.isBlank

end GridDiffusion
