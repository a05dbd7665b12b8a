import GridDiffusion.Proofs.Json.Grammar
import GridDiffusion.Proofs.Json.Meaning
import GridDiffusion.Proofs.Json.ReadBack
/-! Documents as lines: the text of a value is a single line, the end of a line behind a document is
white space like any other, and the tree of a written value has a meaning. -/
namespace GridDiffusion

def Text.IsUnbroken (text : String) : Prop := 0x0A ∉ Text.bytes text

namespace Text

theorem IsUnbroken.append {left right : String} (first : IsUnbroken left) (second : IsUnbroken right) :
    IsUnbroken (left ++ right) := by
  rw [IsUnbroken, bytes_append, List.mem_append, not_or]
  exact ⟨first, second⟩

theorem IsUnbroken.push {text : String} (unbroken : IsUnbroken text) (character : Char)
    (apart : 0x0A ∉ String.utf8EncodeChar character) : IsUnbroken (text.push character) := by
  rw [IsUnbroken, bytes_push, List.mem_append, not_or]
  exact ⟨unbroken, apart⟩

end Text

namespace Json

open Text (IsUnbroken)

theorem IsWord.isUnbroken {text : String} (word : IsWord text) : IsUnbroken text := by
  intro ends
  exact absurd (word.isWordByte _ ends).1 (by decide)

theorem Spelling.IsPlain.ne_newline {byte : UInt8} (plain : IsPlain byte) : 0x0A ≠ byte := by
  rintro rfl
  exact absurd plain.1 (by decide)

theorem Spelling.IsFormed.newline_notMem {spelling : Spelling} (formed : IsFormed spelling) :
    0x0A ∉ spelling := by
  induction formed with
  | nil => exact List.not_mem_nil
  | plain shown behind ih => simp [ih, shown.ne_newline]
  | @short letter byte rest stands behind ih =>
    have apart : 0x0A ≠ letter := by
      rintro rfl
      cases stands
    simp [ih, apart]
  | unit stands behind ih =>
    obtain ⟨-, digits⟩ := of_unit? stands
    simp only [List.forall_mem_cons] at digits
    obtain ⟨first, second, third, fourth, -⟩ := digits
    simp [ih, first.ne_newline, second.ne_newline, third.ne_newline, fourth.ne_newline]

theorem isUnbroken_writeText {written : String} (unbroken : IsUnbroken written) (text : String) :
    IsUnbroken (Value.writeText written text) := by
  have before : 0x0A ∉ Text.bytes written := unbroken
  have spelled := (Spelling.isFormed_ofText text).newline_notMem
  rw [IsUnbroken, Spelling.bytes_writeText]
  simp [before, spelled]

namespace Value

mutual

theorem isUnbroken_write {written : String} (unbroken : IsUnbroken written) (value : Value) :
    IsUnbroken (value.write written) := by
  match value with
  | null | bool true | bool false | array [] | object [] =>
    exact unbroken.append (by unfold IsUnbroken; decide)
  | number amount =>
    rw [write, writeNumber_eq]
    exact unbroken.append (isWord_numberText amount).isUnbroken
  | text content => exact isUnbroken_writeText unbroken content
  | array (first :: rest) =>
    have opened := unbroken.push '[' (by decide)
    exact (isUnbroken_writeItems (isUnbroken_write opened first) rest).push _ (by decide)
  | object ((name, first) :: rest) =>
    have opened := isUnbroken_writeText (unbroken.push '\x7b' (by decide)) name
    have named := opened.push ':' (by decide)
    exact (isUnbroken_writeMembers (isUnbroken_write named first) rest).push _ (by decide)

theorem isUnbroken_writeItems {written : String} (unbroken : IsUnbroken written)
    (items : List Value) : IsUnbroken (writeItems written items) := by
  match items with
  | [] => exact unbroken
  | item :: rest =>
    have parted := unbroken.push ',' (by decide)
    exact isUnbroken_writeItems (isUnbroken_write parted item) rest

theorem isUnbroken_writeMembers {written : String} (unbroken : IsUnbroken written)
    (members : List (String × Value)) : IsUnbroken (writeMembers written members) := by
  match members with
  | [] => exact unbroken
  | (name, value) :: rest =>
    have parted := isUnbroken_writeText (unbroken.push ',' (by decide)) name
    have named := parted.push ':' (by decide)
    exact isUnbroken_writeMembers (isUnbroken_write named value) rest

end

theorem isUnbroken_render (value : Value) : IsUnbroken value.render := by
  have empty : IsUnbroken "" := List.not_mem_nil
  exact isUnbroken_write empty value

end Value

/-- White space at the end makes no difference to the tokens: it ends a word that ends anyway, and a
string that is open stays open. -/
theorem tokens_concat_space (bytes : List UInt8) {byte : UInt8} (blank : Token.isSpace byte = true) :
    tokens (bytes ++ [byte]) = tokens bytes := by
  have unquoted : byte ≠ 0x22 := by
    rintro rfl
    cases blank
  rw [tokens, tokens, List.foldl_append, List.foldl_cons, List.foldl_nil]
  obtain ⟨reversed, pending⟩ := bytes.foldl Lexer.step .start
  cases pending with
  | nothing | word begun => simp [Lexer.step, blank, Lexer.finish, Lexer.endWord, Lexer.push]
  | text begun escaped =>
    cases escaped <;> simp [Lexer.step, unquoted, Lexer.finish, Lexer.push]

theorem Tree.ofBytes?_concat_newline (bytes : List UInt8) :
    ofBytes? (bytes ++ [0x0A]) = ofBytes? bytes := by
  rw [ofBytes?, tokens_concat_space bytes rfl, ofBytes?]

theorem Tree.not_isDocument_blank {bytes : List UInt8}
    (blank : ∀ byte ∈ bytes, Token.isSpace byte = true) (tree : Tree) : ¬ tree.IsDocument bytes := by
  have nothing : tokens bytes = [] := by
    induction bytes using List.reverseRecOn with
    | nil => rfl
    | append_singleton front byte ih =>
      obtain ⟨before, last⟩ := List.forall_mem_append.mp blank
      rw [tokens_concat_space front (last byte List.mem_cons_self), ih before]
  rw [← ofBytes?_eq_some_iff, ofBytes?, nothing]
  exact Option.some_ne_none tree ∘ Eq.symm

namespace Value

/-- Whether a value is no double, and has 64 bits where it is a whole number. -/
def isExact : Value → Bool
  | number (.int value) => -(maxBelowZero : Int) ≤ value && value ≤ maxWord64
  | number (.float _) => false
  | _ => true

mutual

/-- What is written of a value without doubles can be read within any limit that the value keeps. -/
theorem hasMeaning_of_tree? {depth : Nat} (value : Value) (exact : value.every isExact = true)
    (shallow : value.nesting ≤ depth) {tree : Tree} (written : value.tree? = some tree) :
    tree.HasMeaning depth := by
  match value with
  | null => cases written; exact .null
  | bool flag => cases written; exact .bool flag
  | number (.int amount) =>
    obtain ⟨numeral, same, meaning⟩ := tree?_int amount
    cases same.symm.trans written
    simp only [every, isExact, Bool.and_eq_true, decide_eq_true_eq] at exact
    refine .number (mt Numeral.value?_eq_none_iff.mpr ?_)
    rw [meaning exact.1 exact.2]
    exact Option.some_ne_none _
  | number (.float amount) => cases exact
  | text content =>
    cases written
    exact .text (Spelling.text?_eq_some_iff.mp (Spelling.text?_ofText content))
  | array items =>
    obtain ⟨trees, all, rfl⟩ := Option.map_eq_some_iff.mp written
    simp only [every, isExact, Bool.true_and] at exact
    obtain _ | depth := depth
    · cases shallow
    · exact .array (hasMeaning_of_treesOfItems? items exact (Nat.le_of_succ_le_succ shallow) all)
  | object members =>
    obtain ⟨trees, all, rfl⟩ := Option.map_eq_some_iff.mp written
    simp only [every, isExact, Bool.true_and] at exact
    obtain _ | depth := depth
    · cases shallow
    · obtain ⟨named, inner⟩ := hasMeaning_of_treesOfMembers? members exact
        (Nat.le_of_succ_le_succ shallow) all
      exact .object named inner

theorem hasMeaning_of_treesOfItems? {depth : Nat} (items : List Value)
    (exact : everyItem isExact items = true) (shallow : nestingOfItems items ≤ depth)
    {trees : List Tree} (written : treesOfItems? items = some trees) :
    ∀ tree ∈ trees, tree.HasMeaning depth := by
  match items with
  | [] => cases written; exact List.forall_mem_nil _
  | item :: rest =>
    obtain ⟨tree, first, others⟩ := Option.bind_eq_some_iff.mp written
    obtain ⟨more, found, same⟩ := Option.bind_eq_some_iff.mp others
    cases same
    obtain ⟨own, later⟩ := Bool.and_eq_true_iff.mp exact
    obtain ⟨inside, behind⟩ := Nat.max_le.mp shallow
    exact List.forall_mem_cons.mpr ⟨hasMeaning_of_tree? item own inside first,
      hasMeaning_of_treesOfItems? rest later behind found⟩

theorem hasMeaning_of_treesOfMembers? {depth : Nat} (members : List (String × Value))
    (exact : everyMember isExact members = true) (shallow : nestingOfMembers members ≤ depth)
    {trees : List (Spelling × Tree)} (written : treesOfMembers? members = some trees) :
    (∀ member ∈ trees, ∃ characters, member.1.Means characters) ∧
      ∀ member ∈ trees, member.2.HasMeaning depth := by
  match members with
  | [] => cases written; exact ⟨List.forall_mem_nil _, List.forall_mem_nil _⟩
  | (name, value) :: rest =>
    obtain ⟨tree, first, others⟩ := Option.bind_eq_some_iff.mp written
    obtain ⟨more, found, same⟩ := Option.bind_eq_some_iff.mp others
    cases same
    obtain ⟨own, later⟩ := Bool.and_eq_true_iff.mp exact
    obtain ⟨inside, behind⟩ := Nat.max_le.mp shallow
    obtain ⟨named, inner⟩ := hasMeaning_of_treesOfMembers? rest later behind found
    have means := Spelling.text?_eq_some_iff.mp (Spelling.text?_ofText name)
    exact ⟨List.forall_mem_cons.mpr ⟨⟨_, means⟩, named⟩,
      List.forall_mem_cons.mpr ⟨hasMeaning_of_tree? value own inside first, inner⟩⟩

end

end Value
end Json
end GridDiffusion
