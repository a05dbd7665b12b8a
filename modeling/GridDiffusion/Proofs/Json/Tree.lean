import GridDiffusion.Proofs.Json.Row
/-! The tree of a written value: reading a value's row of tokens gives its tree, or nothing where
a double in it has no numeral. -/
namespace GridDiffusion.Json

def Token.leaf? : Token → Option Tree
  | .null => some .null
  | .bool value => some (.bool value)
  | .number numeral => some (.number numeral)
  | .text spelling => some (.text spelling)
  | _ => none

namespace Value

mutual

/-- The tree that a value is written as. A double without a numeral has none. -/
def tree? : Value → Option Tree
  | null => some .null
  | bool value => some (.bool value)
  | number value => (Token.ofWord (Text.bytes (numberText value))).leaf?
  | text value => some (.text (.ofText value))
  | array items => (treesOfItems? items).map .array
  | object members => (treesOfMembers? members).map .object

def treesOfItems? : List Value → Option (List Tree)
  | [] => some []
  | item :: rest => do pure ((← item.tree?) :: (← treesOfItems? rest))

def treesOfMembers? : List (String × Value) → Option (List (Spelling × Tree))
  | [] => some []
  | (name, value) :: rest => do
    pure ((.ofText name, ← value.tree?) :: (← treesOfMembers? rest))

end

/-- A whole number of 64 bits is written as a numeral of its value. -/
theorem tree?_int (value : Int) :
    ∃ numeral, (int value).tree? = some (.number numeral) ∧
      (-(maxBelowZero : Int) ≤ value → value ≤ maxWord64 →
        numeral.value? = some (.int value)) := by
  obtain ⟨numeral, read, meaning⟩ := Token.ofWord_int value
  exact ⟨numeral, by rw [int, tree?, numberText, read, Token.leaf?], meaning⟩

end Value

namespace Tree

theorem readFrom_leaf {token : Token} {tree : Tree} (leaf : token.leaf? = some tree)
    (stack : List Unclosed) (rest : List Token) :
    readFrom stack none (token :: rest) = readFrom stack (some tree) rest := by
  cases token <;> cases leaf <;> rw [readFrom]

theorem ofWord_cases (word : List UInt8) :
    (∃ tree, (Token.ofWord word).leaf? = some tree) ∨ Token.ofWord word = .junk := by
  unfold Token.ofWord
  grind [Token.leaf?]

theorem readFrom_number (number : Number) (stack : List Unclosed) (rest : List Token) :
    readFrom stack none (Token.ofWord (Text.bytes (Value.numberText number)) :: rest) =
      (Value.number number).tree?.bind fun tree => readFrom stack (some tree) rest := by
  rcases ofWord_cases (Text.bytes (Value.numberText number)) with ⟨tree, leaf⟩ | junk
  · simp [Value.tree?, leaf, readFrom_leaf leaf]
  · simp [Value.tree?, junk, Token.leaf?, readFrom]

theorem readFrom_openArray {row : List Token} (opens : ∀ more, row ≠ .closeArray :: more)
    (stack : List Unclosed) : readFrom stack none (.openArray :: row) =
      readFrom (.array [] :: stack) none row := by
  rw [readFrom]
  exact fun more same => opens more same

theorem row_ne_closeArray (value : Value) (rest more : List Token) :
    value.row ++ rest ≠ .closeArray :: more := by
  intro same
  match value with
  | .number amount =>
    rcases ofWord_cases (Text.bytes (Value.numberText amount)) with ⟨tree, leaf⟩ | junk
    · simp [Value.row] at same
      simp [same.1, Token.leaf?] at leaf
    · simp [Value.row, junk] at same
  | .null | .bool _ | .text _ | .array [] | .array (_ :: _) | .object [] | .object (_ :: _) =>
    simp [Value.row] at same

mutual

/-- Reading the row of a value is going on behind its tree. -/
theorem readFrom_row (stack : List Unclosed) (value : Value) (rest : List Token) :
    readFrom stack none (value.row ++ rest) =
      value.tree?.bind fun tree => readFrom stack (some tree) rest := by
  match value with
  | .null | .bool _ | .text _ => simp [Value.row, Value.tree?, readFrom_leaf, Token.leaf?]
  | .number amount => exact readFrom_number amount stack rest
  | .array [] => simp [Value.row, Value.tree?, Value.treesOfItems?, readFrom]
  | .object [] => simp [Value.row, Value.tree?, Value.treesOfMembers?, readFrom]
  | .array (first :: items) =>
    simp only [Value.row, List.cons_append, List.append_assoc]
    rw [readFrom_openArray (row_ne_closeArray first _), readFrom_row]
    simp only [readFrom_rowOfItems, Value.tree?, Value.treesOfItems?]
    cases first.tree? <;> cases Value.treesOfItems? items <;> simp
  | .object ((name, first) :: members) =>
    simp only [Value.row, List.cons_append, List.append_assoc]
    rw [readFrom, readFrom_row]
    simp only [readFrom_rowOfMembers, Value.tree?, Value.treesOfMembers?]
    cases first.tree? <;> cases Value.treesOfMembers? members <;> simp

theorem readFrom_rowOfItems (stack : List Unclosed) (reversed : List Tree) (tree : Tree)
    (items : List Value) (rest : List Token) :
    readFrom (.array reversed :: stack) (some tree)
        (Value.rowOfItems items ++ .closeArray :: rest) =
      (Value.treesOfItems? items).bind fun trees =>
        readFrom stack (some (.array (reversed.reverse ++ tree :: trees))) rest := by
  match items with
  | [] => simp [Value.rowOfItems, Value.treesOfItems?, readFrom]
  | item :: more =>
    simp only [Value.rowOfItems, List.cons_append, List.append_assoc]
    rw [readFrom, readFrom_row]
    simp only [readFrom_rowOfItems, Value.treesOfItems?]
    cases item.tree? <;> cases Value.treesOfItems? more <;> simp

theorem readFrom_rowOfMembers (stack : List Unclosed) (reversed : List (Spelling × Tree))
    (name : Spelling) (tree : Tree) (members : List (String × Value)) (rest : List Token) :
    readFrom (.object reversed name :: stack) (some tree)
        (Value.rowOfMembers members ++ .closeObject :: rest) =
      (Value.treesOfMembers? members).bind fun trees =>
        readFrom stack (some (.object (reversed.reverse ++ (name, tree) :: trees))) rest := by
  match members with
  | [] => simp [Value.rowOfMembers, Value.treesOfMembers?, readFrom]
  | (next, value) :: more =>
    simp only [Value.rowOfMembers, List.cons_append, List.append_assoc]
    rw [readFrom, readFrom_row]
    simp only [readFrom_rowOfMembers, Value.treesOfMembers?]
    cases value.tree? <;> cases Value.treesOfMembers? more <;> simp

end

theorem ofBytes?_render (value : Value) : ofBytes? value.render.toUTF8.toList = value.tree? := by
  have read := readFrom_row [] value []
  rw [List.append_nil] at read
  rw [ofBytes?, Value.tokens_render, ofTokens?, take?, read]
  cases value.tree? <;> simp [readFrom]

end Tree
end GridDiffusion.Json
