import GridDiffusion.Json.Record
import GridDiffusion.Proofs.Json.NumeralValue
import GridDiffusion.Proofs.Json.StringText
/-! What trees mean: texts, whole numbers, and the trees that have a value at all. -/
namespace GridDiffusion.Json.Tree

/-- A tree within a nesting limit, whose strings are texts and whose numbers do not overflow. -/
inductive HasMeaning : Nat → Tree → Prop
  | null {depth : Nat} : HasMeaning depth .null
  | bool {depth : Nat} (value : Bool) : HasMeaning depth (.bool value)
  | number {depth : Nat} {numeral : Numeral} (fits : ¬ numeral.Overflows) :
    HasMeaning depth (.number numeral)
  | text {depth : Nat} {spelling : Spelling} {characters : List Char}
    (means : spelling.Means characters) : HasMeaning depth (.text spelling)
  | array {depth : Nat} {items : List Tree} (inner : ∀ item ∈ items, HasMeaning depth item) :
    HasMeaning (depth + 1) (.array items)
  | object {depth : Nat} {members : List (Spelling × Tree)}
    (named : ∀ member ∈ members, ∃ characters, member.1.Means characters)
    (inner : ∀ member ∈ members, HasMeaning depth member.2) : HasMeaning (depth + 1) (.object members)

inductive IsText (text : String) : Tree → Prop
  | intro {spelling : Spelling} (means : spelling.Means text.toList) : IsText text (.text spelling)

inductive IsWhole (value : Int) : Tree → Prop
  | intro {numeral : Numeral} (whole : numeral.IsWhole value) : IsWhole value (.number numeral)

theorem bool?_eq_some_iff {tree : Tree} {value : Bool} :
    tree.bool? = some value ↔ tree = .bool value := by
  cases tree <;> simp [bool?]

theorem text?_eq_some_iff {tree : Tree} {text : String} :
    tree.text? = some text ↔ tree.IsText text := by
  constructor
  · intro read
    cases tree with
    | text spelling => exact .intro (Spelling.text?_eq_some_iff.mp read)
    | _ => cases read
  · intro shown
    cases shown with
    | intro means => exact Spelling.text?_eq_some_iff.mpr means

theorem int?_eq_some_iff {low high value : Int} {tree : Tree} (lowest : -(maxBelowZero : Int) ≤ low)
    (highest : high ≤ maxWord64) :
    tree.int? low high = some value ↔ tree.IsWhole value ∧ low ≤ value ∧ value ≤ high := by
  constructor
  · intro read
    unfold int? at read
    split at read
    · split at read
      next numeral amount found =>
        obtain ⟨range, same⟩ := Option.ite_none_right_eq_some.mp read
        cases same
        exact ⟨.intro (Numeral.value?_eq_int_iff.mp found).1, range⟩
      · cases read
    · cases read
  · intro shown
    obtain ⟨⟨whole⟩, range⟩ := shown
    have found := Numeral.value?_eq_int_iff.mpr ⟨whole, by omega, by omega⟩
    simp only [int?, found, if_pos range]

theorem nat?_eq_some_iff {high amount : Nat} {tree : Tree} (highest : high ≤ maxWord64) :
    tree.nat? high = some amount ↔ tree.IsWhole amount ∧ amount ≤ high := by
  rw [nat?, Option.map_eq_some_iff]
  constructor
  · intro read
    obtain ⟨value, found, rfl⟩ := read
    obtain ⟨whole, low, bound⟩ := (int?_eq_some_iff (by omega) (by omega)).mp found
    have same : (value.toNat : Int) = value := by omega
    exact ⟨same.symm ▸ whole, by omega⟩
  · intro shown
    obtain ⟨whole, bound⟩ := shown
    exact ⟨amount, (int?_eq_some_iff (by omega) (by omega)).mpr ⟨whole, by omega, by omega⟩, rfl⟩

theorem isWhole_of_nat? {tree : Tree} {amount : Nat}
    (read : tree.nat? (UInt32.size - 1) = some amount) : tree.IsWhole amount.toUInt32.toNat := by
  obtain ⟨whole, bound⟩ := (nat?_eq_some_iff (by decide)).mp read
  rwa [Nat.toUInt32_eq, UInt32.toNat_ofNat_of_lt' (Nat.lt_succ_of_le bound)]

theorem nat?_toNat {tree : Tree} {word : UInt32} (whole : tree.IsWhole word.toNat) :
    tree.nat? (UInt32.size - 1) = some word.toNat :=
  (nat?_eq_some_iff (by decide)).mpr ⟨whole, Nat.le_of_lt_succ word.toNat_lt⟩

theorem isSome_text?_iff {spelling : Spelling} :
    spelling.text?.isSome = true ↔ ∃ characters, spelling.Means characters := by
  rw [Option.isSome_iff_exists]
  constructor
  · intro read
    obtain ⟨text, found⟩ := read
    exact ⟨text.toList, Spelling.text?_eq_some_iff.mp found⟩
  · intro shown
    obtain ⟨characters, means⟩ := shown
    exact ⟨String.ofList characters, Spelling.text?_eq_some_iff.mpr (by simpa using means)⟩

mutual

theorem isReadable_iff {depth : Nat} (tree : Tree) :
    (Value.ofTree? depth tree).isSome = true ↔ tree.HasMeaning depth := by
  match tree with
  | .null => exact iff_of_true rfl .null
  | .bool value => exact iff_of_true rfl (.bool value)
  | .number numeral =>
    rw [Value.ofTree?, Option.isSome_map, Option.isSome_iff_ne_none, ne_eq,
      Numeral.value?_eq_none_iff]
    exact ⟨.number, fun shown => by cases shown with | number fits => exact fits⟩
  | .text spelling =>
    rw [Value.ofTree?, Option.isSome_map, isSome_text?_iff]
    refine ⟨fun ⟨characters, means⟩ => .text means, fun shown => ?_⟩
    cases shown with
    | text means => exact ⟨_, means⟩
  | .array items =>
    cases depth with
    | zero => exact iff_of_false Bool.false_ne_true nofun
    | succ depth =>
      refine (areReadable_items_iff [] items).trans ⟨.array, fun shown => ?_⟩
      cases shown with
      | array inner => exact inner
  | .object members =>
    cases depth with
    | zero => exact iff_of_false Bool.false_ne_true nofun
    | succ depth =>
      refine (areReadable_members_iff [] members).trans
        ⟨fun inner => .object (fun member inside => (inner member inside).1)
          fun member inside => (inner member inside).2, fun shown => ?_⟩
      cases shown with
      | object named inner => exact fun member inside => ⟨named member inside, inner member inside⟩

theorem areReadable_items_iff {depth : Nat} (reversed : List Value) (items : List Tree) :
    (Value.ofItems? depth reversed items).isSome = true ↔ ∀ item ∈ items, item.HasMeaning depth := by
  match items with
  | [] => simp [Value.ofItems?]
  | item :: rest =>
    rw [List.forall_mem_cons, ← isReadable_iff item, Value.ofItems?]
    cases Value.ofTree? depth item with
    | none => simp
    | some value => simpa using areReadable_items_iff (value :: reversed) rest

theorem areReadable_members_iff {depth : Nat} (reversed : List (String × Value))
    (members : List (Spelling × Tree)) : (Value.ofMembers? depth reversed members).isSome = true ↔
      ∀ member ∈ members, (∃ characters, member.1.Means characters) ∧ member.2.HasMeaning depth := by
  match members with
  | [] => simp [Value.ofMembers?]
  | (name, tree) :: rest =>
    rw [List.forall_mem_cons, ← isReadable_iff tree, ← isSome_text?_iff, Value.ofMembers?]
    cases name.text? with
    | none => simp
    | some text =>
      cases Value.ofTree? depth tree with
      | none => simp
      | some value => simpa using areReadable_members_iff ((text, value) :: reversed) rest

end

theorem means_unique {spelling : Spelling} {left right : String} (one : spelling.Means left.toList)
    (other : spelling.Means right.toList) : left = right := by
  have first := Spelling.text?_eq_some_iff.mpr one
  rw [Spelling.text?_eq_some_iff.mpr other] at first
  exact (Option.some.inj first).symm

end GridDiffusion.Json.Tree
