import Mathlib.Algebra.GroupWithZero.Nat
import Mathlib.Algebra.Order.BigOperators.Group.List
import Mathlib.Algebra.Order.Group.Nat
import GridDiffusion.Proofs.Json.Fields
import GridDiffusion.Proofs.Json.Grammar
/-! How short documents get: nothing spells a text in fewer bytes than it is written in, or a number
in fewer than its digits, and a record is at least as long as its fields. -/
namespace GridDiffusion

theorem Digits.IsRow.length_repr_le {digits : List Nat} (row : Digits.IsRow digits) :
    (Digits.value 10 digits).repr.length ≤ digits.length := by
  have below (digits : List Nat) (small : ∀ digit ∈ digits, digit < 10) :
      Digits.value 10 digits < 10 ^ digits.length := by
    induction digits using List.reverseRecOn with
    | nil => decide
    | append_singleton digits last ih =>
      have front := ih fun digit member => small digit (List.mem_append_left _ member)
      have digit := small last (by simp)
      have value : Digits.value 10 (digits ++ [last]) = Digits.value 10 digits * 10 + last := by
        simp [Digits.value, List.foldl_append]
      rw [value, List.length_append, List.length_singleton, Nat.pow_succ]
      omega
  have nonempty := List.length_pos_iff.mpr row.nonempty
  exact (Nat.length_repr_le_iff nonempty).mpr (below digits row.small)

namespace Json

namespace Spelling
variable {spelling rest : Spelling} {character : Char} {characters : List Char}

theorem length_ofChar_le (character : Char) : (ofChar character).length ≤ 6 := by
  have form := form_ofChar character
  generalize ofChar character = spelled at form
  cases form with
  | plain all =>
    rw [String.length_utf8EncodeChar]
    exact Nat.le_trans character.utf8Size_le_four (by decide)
  | short => exact Nat.le_of_ble_eq_true rfl
  | unit => exact Nat.le_refl 6

theorem length_ofChar_of_shortEscape? {letter byte : UInt8} (stands : shortEscape? letter = some byte) :
    (ofChar (Spelling.character byte)).length ≤ 2 := by
  have table : ∀ number : Fin 256, ∀ byte ∈ shortEscape? (UInt8.ofNat number),
      (ofChar (Spelling.character byte)).length ≤ 2 := by
    decide +kernel
  have same : UInt8.ofNat letter.toNat = letter := UInt8.ofNat_toNat
  have found := table ⟨letter.toNat, letter.toNat_lt⟩ byte
  rw [same] at found
  exact found stands

theorem Escape.length_ofChar_le {row : List UInt8} (escape : Escape row character) :
    (ofChar character).length ≤ row.length := by
  cases escape with
  | short stands => exact length_ofChar_of_shortEscape? stands
  | unit => exact Spelling.length_ofChar_le character
  | pair => exact Nat.le_trans (Spelling.length_ofChar_le character) (Nat.le_of_ble_eq_true rfl)

theorem length_ofChar_of_plain (printable : 0x20 ≤ character.toNat) (bare : character ≠ '\\')
    (unquoted : character ≠ '"') :
    (ofChar character).length = (String.utf8EncodeChar character).length := by
  have plain : Value.shortEscape? character = none := by
    unfold Value.shortEscape?
    split <;> first | rfl | contradiction
  rw [ofChar, escape, plain]
  simp [Nat.not_lt.mpr printable]

/-- Behind bytes that are no backslash a string goes on, and no quote is among them. -/
theorem IsFormed.of_append {row : List UInt8} (bare : ∀ byte ∈ row, byte ≠ 0x5C)
    (formed : IsFormed (row ++ rest)) : IsFormed rest ∧ (0x22 : UInt8) ∉ row := by
  induction row with
  | nil => exact ⟨formed, List.not_mem_nil⟩
  | cons byte more ih =>
    have here := bare byte List.mem_cons_self
    rw [List.cons_append] at formed
    generalize shown : byte :: (more ++ rest) = whole at formed
    cases formed with
    | nil => cases shown
    | plain plain behind =>
      obtain ⟨rfl, rfl⟩ := List.cons.inj shown
      obtain ⟨after, absent⟩ := ih (fun other member => bare other (.tail _ member)) behind
      exact ⟨after, List.not_mem_cons_of_ne_of_not_mem (Ne.symm plain.2.1) absent⟩
    | short | unit => exact absurd (List.cons.inj shown).1 here

theorem IsFormed.of_escape {row : List UInt8} (escape : Escape row character)
    (formed : IsFormed (row ++ rest)) : IsFormed rest := by
  have backslash : ¬ IsPlain 0x5C := by decide
  have short {letter : UInt8} {more : Spelling} (apart : letter ≠ 0x75)
      (formed : IsFormed (0x5C :: letter :: more)) : IsFormed more := by
    cases formed with
    | plain plain => exact absurd plain backslash
    | short _ behind => exact behind
    | unit => exact absurd rfl apart
  have unit {first second third fourth : UInt8} {more : Spelling}
      (formed : IsFormed (0x5C :: 0x75 :: first :: second :: third :: fourth :: more)) :
      IsFormed more := by
    cases formed with
    | plain plain => exact absurd plain backslash
    | short stands => exact absurd rfl (of_shortEscape? stands).2
    | unit _ behind => exact behind
  cases escape with
  | short stands => exact short (of_shortEscape? stands).2 formed
  | unit => exact unit formed
  | pair => exact unit (unit formed)

/-- A string is at least as long as the text it stands for is written. -/
theorem IsFormed.length_ofText_le (formed : IsFormed spelling) (means : spelling.Means characters) :
    (characters.flatMap ofChar).length ≤ spelling.length := by
  induction means with
  | nil => exact Nat.le_refl 0
  | @plain character rest more printable bare behind ih =>
    have bytes := plain_iff.mp ⟨printable, bare⟩
    obtain ⟨after, absent⟩ := formed.of_append fun byte member => (bytes byte member).2
    have unquoted : character ≠ '"' := by
      rintro rfl
      exact absent (by decide)
    have later := ih after
    rw [List.flatMap_cons, List.length_append, List.length_append,
      length_ofChar_of_plain printable bare unquoted]
    omega
  | escape escape behind ih =>
    have later := ih (formed.of_escape escape)
    have first := escape.length_ofChar_le
    rw [List.flatMap_cons, List.length_append, List.length_append]
    omega

end Spelling

/-- The fewest bytes that a token of this meaning is spelled in. -/
def Token.leastSize : Token → Nat
  | .number numeral => (Digits.value 10 numeral.whole).repr.length
  | .text spelling => 2 + (spelling.text?.map fun text => (Spelling.ofText text).length).getD 0
  | _ => 1

theorem Token.IsSpelled.leastSize_le {token : Token} {bytes : List UInt8}
    (spells : token.IsSpelled bytes) : token.leastSize ≤ bytes.length := by
  cases spells with
  | mark found =>
    unfold punctuation? at found
    split at found <;> cases found <;> exact Nat.le_refl 1
  | null => decide
  | bool value => cases value <;> decide
  | @number numeral word spelled =>
    obtain ⟨row, -, -, exponent, -, same⟩ := spelled
    have length := congrArg List.length same
    simp only [List.length_map, List.length_append, Digits.text] at length
    have digits := row.length_repr_le
    rw [leastSize]
    omega
  | @text spelling formed =>
    rw [leastSize, List.length_append, List.length_cons, List.length_singleton]
    cases read : spelling.text? with
    | none => simp
    | some text =>
      have least := formed.length_ofText_le (Spelling.text?_eq_some_iff.mp read)
      have same : (Spelling.ofText text).length ≤ spelling.length := least
      simp only [Option.map_some, Option.getD_some]
      omega

theorem IsLaidOut.sum_leastSize_le {row : List Token} {bytes : List UInt8}
    (laid : IsLaidOut row bytes) : (row.map Token.leastSize).sum ≤ bytes.length := by
  induction laid with
  | nil => exact Nat.le_refl 0
  | space _ _ ih => exact Nat.le_succ_of_le ih
  | token spells _ ih =>
    rw [List.map_cons, List.sum_cons, List.length_append]
    exact Nat.add_le_add spells.leastSize_le ih

namespace Tree
variable {tree : Tree} {names : List String}

/-- The fewest bytes that a document of a tree takes. -/
def leastSize (tree : Tree) : Nat := (tree.row.map Token.leastSize).sum

theorem IsDocument.leastSize_le {bytes : List UInt8} (document : tree.IsDocument bytes) :
    tree.leastSize ≤ bytes.length := IsLaidOut.sum_leastSize_le document

theorem IsText.leastSize_eq {text : String} (shown : tree.IsText text) :
    tree.leastSize = 2 + (Spelling.ofText text).length := by
  cases shown with
  | intro means => simp [leastSize, row, Token.leastSize, Spelling.text?_eq_some_iff.mpr means]

theorem IsWhole.leastSize_eq {amount : Nat} (shown : tree.IsWhole amount) :
    tree.leastSize = amount.repr.length := by
  cases shown with
  | @intro numeral whole =>
    have size := whole.size
    have value : Digits.value 10 numeral.whole = amount := by
      split at size
      next negative =>
        have apart := whole.notMinusZero negative
        omega
      · omega
    simp [leastSize, row, Token.leastSize, value]

theorem le_leastSize_array (items : List Tree) :
    1 + (items.map fun item => item.leastSize + 1).sum ≤ (array items).leastSize := by
  have behind (items : List Tree) : ((rowOfItems items).map Token.leastSize).sum =
      (items.map fun item => item.leastSize + 1).sum := by
    induction items with
    | nil => rfl
    | cons item rest ih =>
      simp only [rowOfItems, List.map_cons, List.map_append, List.sum_cons, List.sum_append, ih,
        leastSize, Token.leastSize]
      omega
  cases items with
  | nil => decide
  | cons first rest =>
    have later := behind rest
    simp only [leastSize, row, List.map_cons, List.map_append, List.sum_cons, List.sum_append,
      Token.leastSize, List.map_nil, List.sum_nil] at later ⊢
    omega

theorem le_leastSize_object (members : List (Spelling × Tree)) :
    1 + (members.map fun member => member.2.leastSize + 1).sum ≤ (object members).leastSize := by
  have behind (members : List (Spelling × Tree)) :
      (members.map fun member => member.2.leastSize + 1).sum ≤
        ((rowOfMembers members).map Token.leastSize).sum := by
    induction members with
    | nil => exact Nat.le_refl 0
    | cons member rest ih =>
      simp only [rowOfMembers, List.map_cons, List.map_append, List.sum_cons, List.sum_append,
        leastSize, Token.leastSize] at ih ⊢
      omega
  cases members with
  | nil => decide
  | cons first rest =>
    have later := behind rest
    simp only [leastSize, row, List.map_cons, List.map_append, List.sum_cons, List.sum_append,
      Token.leastSize, List.map_nil, List.sum_nil] at later ⊢
    omega

/-- A further entry is found under one of the names at most. -/
theorem sum_lookup_cons_le (distinct : names.Nodup) (cost : Tree → Nat) (field : String × Tree)
    (rest : List (String × Tree)) :
    (names.map fun name => (((field :: rest).lookup name).map cost).getD 0).sum ≤
      cost field.2 + (names.map fun name => ((rest.lookup name).map cost).getD 0).sum := by
  induction names with
  | nil => exact Nat.zero_le _
  | cons name others ih =>
    obtain ⟨fresh, single⟩ := List.nodup_cons.mp distinct
    rw [List.map_cons, List.map_cons, List.sum_cons, List.sum_cons, List.lookup_cons]
    by_cases here : name = field.1
    · have apart : others.map (fun name => (((field :: rest).lookup name).map cost).getD 0) =
          others.map fun name => ((rest.lookup name).map cost).getD 0 := by
        refine List.map_congr_left fun other member => ?_
        have unlike : (other == field.1) = false :=
          beq_eq_false_iff_ne.mpr fun same => fresh (here.trans same.symm ▸ member)
        rw [List.lookup_cons, unlike]
      rw [apart, beq_iff_eq.mpr here]
      simp only [Option.map_some, Option.getD_some]
      omega
    · have later := ih single
      rw [beq_eq_false_iff_ne.mpr here]
      dsimp only
      omega

theorem sum_lookup_le (distinct : names.Nodup) (cost : Tree → Nat) (fields : List (String × Tree)) :
    (names.map fun name => ((fields.lookup name).map cost).getD 0).sum ≤
      (fields.map fun field => cost field.2).sum := by
  induction fields with
  | nil => simp
  | cons field rest ih =>
    rw [List.map_cons, List.sum_cons]
    exact Nat.le_trans (sum_lookup_cons_le distinct cost field rest) (Nat.add_le_add_left ih _)

theorem sublist_lastOfEach (named : List (String × Tree)) : (lastOfEach named).Sublist named := by
  induction named with
  | nil => exact .slnil
  | cons member rest ih =>
    rw [lastOfEach]
    split
    · exact ih.cons member
    · exact ih.cons_cons member

theorem map_snd_of_namedMembers? {members : List (Spelling × Tree)} {named : List (String × Tree)}
    (read : namedMembers? members = some named) : named.map Prod.snd = members.map Prod.snd := by
  induction members generalizing named with
  | nil => cases read; rfl
  | cons member rest ih =>
    obtain ⟨own, others, -, found, rfl⟩ := namedMembers?_cons_iff.mp read
    rw [List.map_cons, List.map_cons, ih found]

/-- A record is at least as long as what it gives for its fields, with a byte for each and one more.
-/
theorem le_leastSize_record {repeats : Repeats} {record : Record}
    (read : tree.record? repeats names = some record) (distinct : names.Nodup) :
    1 + (names.map fun name =>
        ((record.get? name).map fun field => field.leastSize + 1).getD 0).sum ≤ tree.leastSize := by
  have given := sum_lookup_le distinct (fun field => field.leastSize + 1) record.fields
  refine Nat.le_trans (Nat.add_le_add_left given 1) ?_
  cases tree with
  | array items =>
    rw [record?] at read
    obtain ⟨short, same⟩ := Option.ite_none_right_eq_some.mp read
    cases same
    have values : ((names.zip items).map fun field => field.2.leastSize + 1) =
        items.map fun item => item.leastSize + 1 := by
      have same := congrArg (List.map fun field : Tree => field.leastSize + 1)
        (List.map_snd_zip short)
      rwa [List.map_map] at same
    rw [values]
    exact le_leastSize_array items
  | object members =>
    rw [record?_object, Option.bind_eq_some_iff] at read
    obtain ⟨named, found, stays⟩ := read
    obtain ⟨-, same⟩ := Option.ite_none_left_eq_some.mp stays
    cases same
    have kept : (known names (lastOfEach named)).Sublist named :=
      List.filter_sublist.trans (sublist_lastOfEach named)
    have values : (named.map fun field => field.2.leastSize + 1) =
        members.map fun member => member.2.leastSize + 1 := by
      have same := congrArg (List.map fun field : Tree => field.leastSize + 1)
        (map_snd_of_namedMembers? found)
      rwa [List.map_map, List.map_map] at same
    have below := (kept.map fun field => field.2.leastSize + 1).sum_le_sum fun _ _ => Nat.zero_le _
    rw [values] at below
    exact Nat.le_trans (Nat.add_le_add_left below 1) (le_leastSize_object members)
  | _ => cases read

end Tree
end Json
end GridDiffusion
