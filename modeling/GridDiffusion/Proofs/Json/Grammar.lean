import GridDiffusion.Proofs.Json.Layout
import GridDiffusion.Proofs.Json.Tree
/-! The grammar of documents: a tree is the row of its tokens, and a document is such a row laid out
in bytes. What is read as a tree is exactly what is laid out as that tree. -/
namespace GridDiffusion.Json.Tree

mutual

/-- The row of tokens of a tree. -/
def row : Tree → List Token
  | null => [.null]
  | bool value => [.bool value]
  | number numeral => [.number numeral]
  | text spelling => [.text spelling]
  | array [] => [.openArray, .closeArray]
  | array (first :: rest) => .openArray :: (first.row ++ rowOfItems rest ++ [.closeArray])
  | object [] => [.openObject, .closeObject]
  | object ((name, first) :: rest) =>
    .openObject :: .text name :: .colon :: (first.row ++ rowOfMembers rest ++ [.closeObject])

def rowOfItems : List Tree → List Token
  | [] => []
  | item :: rest => .comma :: (item.row ++ rowOfItems rest)

def rowOfMembers : List (Spelling × Tree) → List Token
  | [] => []
  | (name, tree) :: rest => .comma :: .text name :: .colon :: (tree.row ++ rowOfMembers rest)

end

/-- Bytes that are a tree, with white space between its tokens. -/
def IsDocument (tree : Tree) (bytes : List UInt8) : Prop := IsLaidOut tree.row bytes

theorem row_append_ne_closeArray (tree : Tree) (rest more : List Token) :
    tree.row ++ rest ≠ .closeArray :: more := by
  match tree with
  | null | bool _ | number _ | text _ | array [] | array (_ :: _) | object [] | object (_ :: _) =>
    simp [row]

mutual

theorem readFrom_treeRow (stack : List Unclosed) (tree : Tree) (rest : List Token) :
    readFrom stack none (tree.row ++ rest) = readFrom stack (some tree) rest := by
  match tree with
  | null | bool _ | number _ | text _ => exact readFrom_leaf rfl stack rest
  | array [] | object [] => simp only [row, List.cons_append, List.nil_append, readFrom]
  | array (first :: items) =>
    simp only [row, List.cons_append, List.append_assoc]
    rw [readFrom_openArray (row_append_ne_closeArray first _), readFrom_treeRow]
    exact readFrom_rowOfTrees stack [] first items rest
  | object ((name, first) :: members) =>
    simp only [row, List.cons_append, List.append_assoc]
    rw [readFrom, readFrom_treeRow]
    exact readFrom_rowOfNamed stack [] name first members rest

theorem readFrom_rowOfTrees (stack : List Unclosed) (reversed : List Tree) (tree : Tree)
    (items : List Tree) (rest : List Token) :
    readFrom (.array reversed :: stack) (some tree) (rowOfItems items ++ .closeArray :: rest) =
      readFrom stack (some (.array (reversed.reverse ++ tree :: items))) rest := by
  match items with
  | [] => simp [rowOfItems, readFrom]
  | item :: more =>
    simp only [rowOfItems, List.cons_append, List.append_assoc]
    rw [readFrom, readFrom_treeRow, readFrom_rowOfTrees]
    simp

theorem readFrom_rowOfNamed (stack : List Unclosed) (reversed : List (Spelling × Tree))
    (name : Spelling) (tree : Tree) (members : List (Spelling × Tree)) (rest : List Token) :
    readFrom (.object reversed name :: stack) (some tree)
        (rowOfMembers members ++ .closeObject :: rest) =
      readFrom stack (some (.object (reversed.reverse ++ (name, tree) :: members))) rest := by
  match members with
  | [] => simp [rowOfMembers, readFrom]
  | (next, following) :: more =>
    simp only [rowOfMembers, List.cons_append, List.append_assoc]
    rw [readFrom, readFrom_treeRow, readFrom_rowOfNamed]
    simp

end

/-- The tokens in front of the value that is read next: those that opened what is still open, and
those of what is complete in it. -/
def rowBefore : List Unclosed → List Token
  | [] => []
  | .array reversed :: stack =>
    rowBefore stack ++ .openArray :: reversed.reverse.flatMap fun item => item.row ++ [.comma]
  | .object reversed name :: stack =>
    rowBefore stack ++ .openObject ::
      (reversed.reverse.flatMap fun member => .text member.1 :: .colon :: (member.2.row ++ [.comma])) ++
        [.text name, .colon]

theorem row_array_concat (items : List Tree) (last : Tree) : (array (items ++ [last])).row =
    .openArray :: (items.flatMap fun item => item.row ++ [.comma]) ++ last.row ++ [.closeArray] := by
  have shift (first : Tree) (items : List Tree) : first.row ++ rowOfItems (items ++ [last]) =
      ((first :: items).flatMap fun item => item.row ++ [.comma]) ++ last.row := by
    induction items generalizing first with
    | nil => simp [rowOfItems]
    | cons item more ih => simp [rowOfItems, ih item]
  cases items with
  | nil => simp [row, rowOfItems]
  | cons first items => rw [List.cons_append, row, shift]; simp

theorem row_object_concat (members : List (Spelling × Tree)) (name : Spelling) (last : Tree) :
    (object (members ++ [(name, last)])).row = .openObject ::
      (members.flatMap fun member => .text member.1 :: .colon :: (member.2.row ++ [.comma])) ++
        .text name :: .colon :: last.row ++ [.closeObject] := by
  have shift (first : Tree) (members : List (Spelling × Tree)) :
      first.row ++ rowOfMembers (members ++ [(name, last)]) = first.row ++ [.comma] ++
        (members.flatMap fun member => .text member.1 :: .colon :: (member.2.row ++ [.comma])) ++
          .text name :: .colon :: last.row := by
    induction members generalizing first with
    | nil => simp [rowOfMembers]
    | cons member more ih =>
      have later := ih member.2
      simp only [List.append_assoc, List.cons_append, List.nil_append] at later
      simp [rowOfMembers, later]
  cases members with
  | nil => simp [row, rowOfMembers]
  | cons first members => rw [List.cons_append, row, shift]; simp

theorem row_of_readFrom {stack : List Unclosed} {current : Option Tree} {tokens rest : List Token}
    {tree : Tree} (read : readFrom stack current tokens = some (tree, rest)) :
    rowBefore stack ++ (current.elim [] row ++ tokens) = tree.row ++ rest := by
  fun_induction readFrom stack current tokens with
  | case1 => cases read; rfl
  | case2 reversed stack item tokens ih => simpa [rowBefore] using ih read
  | case3 reversed stack item tokens ih =>
    rw [← ih read, List.reverse_cons]
    simp [rowBefore, row_array_concat]
  | case4 reversed name stack item next tokens ih => simpa [rowBefore] using ih read
  | case5 reversed name stack item tokens ih =>
    rw [← ih read, List.reverse_cons]
    simp [rowBefore, row_object_concat]
  | case6 stack tokens ih => simpa [row] using ih read
  | case7 stack value tokens ih => simpa [row] using ih read
  | case8 stack numeral tokens ih => simpa [row] using ih read
  | case9 stack spelling tokens ih => simpa [row] using ih read
  | case10 stack tokens ih => simpa [row] using ih read
  | case11 stack tokens other ih => simpa [rowBefore] using ih read
  | case12 stack tokens ih => simpa [row] using ih read
  | case13 stack name tokens ih => simpa [rowBefore] using ih read
  | case14 => cases read

theorem ofTokens?_eq_some_iff {tokens : List Token} {tree : Tree} :
    ofTokens? tokens = some tree ↔ tokens = tree.row := by
  constructor
  · intro read
    unfold ofTokens? at read
    split at read
    next other taken =>
      cases read
      simpa [rowBefore] using row_of_readFrom taken
    · cases read
  · rintro rfl
    have read := readFrom_treeRow [] tree []
    rw [List.append_nil] at read
    rw [ofTokens?, take?, read]
    rfl

mutual

theorem isLegible_row (tree : Tree) {rest : List Token} (behind : GoesOn rest) :
    IsLegible (tree.row ++ rest) := by
  match tree with
  | null | bool _ | number _ | text _ => exact behind.cons _ nofun
  | array [] =>
    have closed := (behind.legible.mark .closeArray nofun rfl).legible
    exact (closed.mark .openArray nofun rfl).legible
  | object [] =>
    have closed := (behind.legible.mark .closeObject nofun rfl).legible
    exact (closed.mark .openObject nofun rfl).legible
  | array (first :: items) =>
    have closed := behind.legible.mark .closeArray nofun rfl
    have inner := isLegible_row first (goesOn_rowOfItems items closed)
    simpa [row] using (inner.mark .openArray nofun rfl).legible
  | object ((name, first) :: members) =>
    have closed := behind.legible.mark .closeObject nofun rfl
    have inner := isLegible_row first (goesOn_rowOfMembers members closed)
    simpa [row] using ((inner.member name).mark .openObject nofun rfl).legible

theorem goesOn_rowOfItems (items : List Tree) {rest : List Token} (behind : GoesOn rest) :
    GoesOn (rowOfItems items ++ rest) := by
  match items with
  | [] => exact behind
  | item :: more =>
    have inner := isLegible_row item (goesOn_rowOfItems more behind)
    simpa [rowOfItems] using inner.mark .comma nofun rfl

theorem goesOn_rowOfMembers (members : List (Spelling × Tree)) {rest : List Token}
    (behind : GoesOn rest) : GoesOn (rowOfMembers members ++ rest) := by
  match members with
  | [] => exact behind
  | (name, tree) :: more =>
    have inner := isLegible_row tree (goesOn_rowOfMembers more behind)
    simpa [rowOfMembers] using (inner.member name).mark .comma nofun rfl

end

/-- What is read as a document of a tree is exactly what is laid out as that tree. -/
theorem ofBytes?_eq_some_iff {bytes : List UInt8} {tree : Tree} :
    ofBytes? bytes = some tree ↔ tree.IsDocument bytes := by
  have legible := isLegible_row tree goesOn_nil
  rw [List.append_nil] at legible
  rw [ofBytes?, ofTokens?_eq_some_iff, tokens_eq_iff legible, IsDocument]

end GridDiffusion.Json.Tree
