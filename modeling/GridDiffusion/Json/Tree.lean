import GridDiffusion.Json.Token
/-! The nesting of a document: values as trees over spelled strings and numerals. Any depth is
read, because a value that is skipped may be nested without limit. -/
namespace GridDiffusion.Json

/-- A value as it is spelled. The members of an object stand in document order, and a name may
occur again. -/
inductive Tree
  | null
  | bool (value : Bool)
  | number (numeral : Numeral)
  | text (spelling : Spelling)
  | array (items : List Tree)
  | object (members : List (Spelling × Tree))
deriving Inhabited

/-- An array or object whose end has not been read; what it holds is kept in reverse. -/
inductive Unclosed
  | array (reversed : List Tree)
  | object (reversed : List (Spelling × Tree)) (name : Spelling)

namespace Tree

/-- Read on inside the arrays and objects that are still open: towards a value, or after a complete
one, which ends the reading when nothing is open. -/
def readFrom : List Unclosed → Option Tree → List Token → Option (Tree × List Token)
  | [], some tree, rest => some (tree, rest)
  | .array reversed :: stack, some tree, .comma :: rest =>
    readFrom (.array (tree :: reversed) :: stack) none rest
  | .array reversed :: stack, some tree, .closeArray :: rest =>
    readFrom stack (some (.array (tree :: reversed).reverse)) rest
  | .object reversed name :: stack, some tree, .comma :: .text next :: .colon :: rest =>
    readFrom (.object ((name, tree) :: reversed) next :: stack) none rest
  | .object reversed name :: stack, some tree, .closeObject :: rest =>
    readFrom stack (some (.object ((name, tree) :: reversed).reverse)) rest
  | stack, none, .null :: rest => readFrom stack (some .null) rest
  | stack, none, .bool value :: rest => readFrom stack (some (.bool value)) rest
  | stack, none, .number numeral :: rest => readFrom stack (some (.number numeral)) rest
  | stack, none, .text spelling :: rest => readFrom stack (some (.text spelling)) rest
  | stack, none, .openArray :: .closeArray :: rest => readFrom stack (some (.array [])) rest
  | stack, none, .openArray :: rest => readFrom (.array [] :: stack) none rest
  | stack, none, .openObject :: .closeObject :: rest => readFrom stack (some (.object [])) rest
  | stack, none, .openObject :: .text name :: .colon :: rest =>
    readFrom (.object [] name :: stack) none rest
  | _, _, _ => none

/-- Read the value at the front of a row of tokens, and answer what follows it. -/
def take? (row : List Token) : Option (Tree × List Token) := readFrom [] none row

def ofTokens? (row : List Token) : Option Tree :=
  match take? row with
  | some (tree, []) => some tree
  | _ => none

def ofBytes? (bytes : List UInt8) : Option Tree := ofTokens? (tokens bytes)

end Tree
end GridDiffusion.Json
