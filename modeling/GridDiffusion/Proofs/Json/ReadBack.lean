import Mathlib.Data.List.Induction
import GridDiffusion.Json.Record
import GridDiffusion.Proofs.Json.NumeralText
import GridDiffusion.Proofs.Json.Tree
/-! Values read back: what reading a tree can give at all, and that a value of that form without
doubles is read as it was written. -/
namespace GridDiffusion.Json

namespace Value

mutual

/-- How many arrays and objects stand inside each other, the value itself counted. -/
def nesting : Value → Nat
  | null | bool _ | number _ | text _ => 0
  | array items => nestingOfItems items + 1
  | object members => nestingOfMembers members + 1

def nestingOfItems : List Value → Nat
  | [] => 0
  | item :: rest => max item.nesting (nestingOfItems rest)

def nestingOfMembers : List (String × Value) → Nat
  | [] => 0
  | (_, value) :: rest => max value.nesting (nestingOfMembers rest)

end

mutual

/-- Whether a value and all values inside it are of a form. -/
def every (form : Value → Bool) : Value → Bool
  | array items => form (array items) && everyItem form items
  | object members => form (object members) && everyMember form members
  | value => form value

def everyItem (form : Value → Bool) : List Value → Bool
  | [] => true
  | item :: rest => item.every form && everyItem form rest

def everyMember (form : Value → Bool) : List (String × Value) → Bool
  | [] => true
  | (_, value) :: rest => value.every form && everyMember form rest

end

/-- Members in strictly increasing name order. -/
def Ordered (members : List (String × Value)) : Prop :=
  members.Pairwise fun earlier later => compare earlier.1 later.1 = .lt

instance (members : List (String × Value)) : Decidable (Ordered members) :=
  inferInstanceAs (Decidable (List.Pairwise _ members))

def isRegular : Value → Bool
  | object members => decide (Ordered members)
  | number (.int value) => -(maxBelowZero : Int) ≤ value && value ≤ maxWord64
  | _ => true

def isNoDouble : Value → Bool
  | number (.float _) => false
  | _ => true

/-- What reading within a nesting limit can give. -/
structure IsRead (depth : Nat) (value : Value) : Prop where
  regular : value.every isRegular = true
  shallow : value.nesting ≤ depth

theorem everyItem_iff {form : Value → Bool} {items : List Value} :
    everyItem form items = true ↔ ∀ item ∈ items, item.every form = true := by
  induction items with
  | nil => simp [everyItem]
  | cons item rest ih => simp [everyItem, ih]

theorem everyMember_iff {form : Value → Bool} {members : List (String × Value)} :
    everyMember form members = true ↔ ∀ member ∈ members, member.2.every form = true := by
  induction members with
  | nil => simp [everyMember]
  | cons member rest ih => simp [everyMember, ih]

theorem nestingOfItems_le_iff {depth : Nat} {items : List Value} :
    nestingOfItems items ≤ depth ↔ ∀ item ∈ items, item.nesting ≤ depth := by
  induction items with
  | nil => simp [nestingOfItems]
  | cons item rest ih => rw [nestingOfItems, Nat.max_le, ih, List.forall_mem_cons]

theorem nestingOfMembers_le_iff {depth : Nat} {members : List (String × Value)} :
    nestingOfMembers members ≤ depth ↔ ∀ member ∈ members, member.2.nesting ≤ depth := by
  induction members with
  | nil => simp [nestingOfMembers]
  | cons member rest ih => rw [nestingOfMembers, Nat.max_le, ih, List.forall_mem_cons]

theorem isRead_array_iff {depth : Nat} {items : List Value} :
    (array items).IsRead (depth + 1) ↔ ∀ item ∈ items, item.IsRead depth := by
  constructor
  · intro read item member
    have regular := read.regular
    simp only [every, isRegular, Bool.true_and] at regular
    exact ⟨everyItem_iff.mp regular item member,
      nestingOfItems_le_iff.mp (Nat.le_of_succ_le_succ read.shallow) item member⟩
  · intro inner
    constructor
    · simp only [every, isRegular, Bool.true_and]
      exact everyItem_iff.mpr fun item member => (inner item member).regular
    · exact Nat.succ_le_succ
        (nestingOfItems_le_iff.mpr fun item member => (inner item member).shallow)

theorem isRead_object_iff {depth : Nat} {members : List (String × Value)} :
    (object members).IsRead (depth + 1) ↔
      Ordered members ∧ ∀ member ∈ members, member.2.IsRead depth := by
  constructor
  · intro read
    obtain ⟨ordered, regular⟩ := Bool.and_eq_true_iff.mp read.regular
    refine ⟨decide_eq_true_eq.mp ordered, fun member inside => ?_⟩
    exact ⟨everyMember_iff.mp regular member inside,
      nestingOfMembers_le_iff.mp (Nat.le_of_succ_le_succ read.shallow) member inside⟩
  · intro inner
    obtain ⟨ordered, inner⟩ := inner
    constructor
    · apply Bool.and_eq_true_iff.mpr
      exact ⟨decide_eq_true ordered,
        everyMember_iff.mpr fun member inside => (inner member inside).regular⟩
    · exact Nat.succ_le_succ
        (nestingOfMembers_le_iff.mpr fun member inside => (inner member inside).shallow)

theorem ordered_iff_names {members : List (String × Value)} : Ordered members ↔
    (members.map Prod.fst).Pairwise fun earlier later => compare earlier later = .lt := by
  rw [List.pairwise_map, Ordered]

theorem mem_addMember {name : String} {value : Value} {member : String × Value}
    {members : List (String × Value)} (added : member ∈ addMember name value members) :
    member = (name, value) ∨ member ∈ members := by
  induction members with
  | nil => simpa [addMember] using added
  | cons head rest ih =>
    unfold addMember at added
    split at added
    · simpa using added
    · exact .inr added
    · rcases List.mem_cons.mp added with same | inside
      · exact .inr (same ▸ List.mem_cons_self)
      · exact (ih inside).imp_right (List.mem_cons_of_mem _)

theorem Ordered.addMember {members : List (String × Value)} (ordered : Ordered members)
    (name : String) (value : Value) : Ordered (addMember name value members) := by
  induction members with
  | nil => exact List.pairwise_singleton ..
  | cons head rest ih =>
    obtain ⟨below, tail⟩ := List.pairwise_cons.mp ordered
    unfold Value.addMember
    split
    next before =>
      refine List.pairwise_cons.mpr ⟨fun member inside => ?_, ordered⟩
      rcases List.mem_cons.mp inside with same | later
      · exact same ▸ before
      · exact Std.TransCmp.lt_trans before (below member later)
    · exact ordered
    next after =>
      refine List.pairwise_cons.mpr ⟨fun member inside => ?_, ih tail⟩
      rcases mem_addMember inside with same | later
      · exact same ▸ Std.OrientedCmp.lt_of_gt after
      · exact below member later

theorem settle_concat (member : String × Value) (reversed : List (String × Value)) :
    settle (reversed ++ [member]) = addMember member.1 member.2 (settle reversed) := by
  simp [settle]

theorem ordered_settle (reversed : List (String × Value)) : Ordered (settle reversed) := by
  induction reversed using List.reverseRecOn with
  | nil => exact .nil
  | append_singleton reversed member ih => exact settle_concat member reversed ▸ ih.addMember ..

theorem mem_of_mem_settle {member : String × Value} {reversed : List (String × Value)}
    (settled : member ∈ settle reversed) : member ∈ reversed := by
  induction reversed using List.reverseRecOn with
  | nil => exact settled
  | append_singleton reversed last ih =>
    rw [settle_concat] at settled
    rcases mem_addMember settled with same | earlier
    · exact List.mem_append_right _ (List.mem_singleton.mpr same)
    · exact List.mem_append_left _ (ih earlier)

theorem settle_reverse {members : List (String × Value)} (ordered : Ordered members) :
    settle members.reverse = members := by
  induction members with
  | nil => rfl
  | cons member rest ih =>
    obtain ⟨below, tail⟩ := List.pairwise_cons.mp ordered
    rw [List.reverse_cons, settle_concat, ih tail]
    cases rest with
    | nil => rfl
    | cons next more => simp [addMember, below next List.mem_cons_self]

mutual

theorem isRead_of_ofTree? {depth : Nat} {value : Value} (tree : Tree)
    (read : ofTree? depth tree = some value) :
    value.IsRead depth := by
  match tree with
  | .null =>
    cases read
    exact ⟨rfl, Nat.zero_le _⟩
  | .bool _ =>
    cases read
    exact ⟨rfl, Nat.zero_le _⟩
  | .text spelling =>
    obtain ⟨text, -, rfl⟩ := Option.map_eq_some_iff.mp read
    exact ⟨rfl, Nat.zero_le _⟩
  | .number numeral =>
    obtain ⟨amount, found, rfl⟩ := Option.map_eq_some_iff.mp read
    refine ⟨?_, Nat.zero_le _⟩
    cases amount with
    | float double => rfl
    | int amount =>
      have range := (Numeral.value?_eq_int_iff.mp found).2
      simp [every, isRegular, range]
  | .array items =>
    cases depth with
    | zero => cases read
    | succ depth => exact isRead_of_ofItems? items (List.forall_mem_nil _) read
  | .object members =>
    cases depth with
    | zero => cases read
    | succ depth => exact isRead_of_ofMembers? members (List.forall_mem_nil _) read

theorem isRead_of_ofItems? {depth : Nat} {value : Value} {reversed : List Value} (items : List Tree)
    (earlier : ∀ item ∈ reversed, item.IsRead depth)
    (read : ofItems? depth reversed items = some value) : value.IsRead (depth + 1) := by
  match items with
  | [] =>
    cases read
    exact isRead_array_iff.mpr fun item member => earlier item (List.mem_reverse.mp member)
  | item :: rest =>
    unfold ofItems? at read
    split at read
    · cases read
    next first found =>
      have here := isRead_of_ofTree? item found
      exact isRead_of_ofItems? rest (List.forall_mem_cons.mpr ⟨here, earlier⟩) read

theorem isRead_of_ofMembers? {depth : Nat} {value : Value} {reversed : List (String × Value)}
    (members : List (Spelling × Tree))
    (earlier : ∀ member ∈ reversed, member.2.IsRead depth)
    (read : ofMembers? depth reversed members = some value) : value.IsRead (depth + 1) := by
  match members with
  | [] =>
    cases read
    exact isRead_object_iff.mpr ⟨ordered_settle reversed,
      fun member settled => earlier member (mem_of_mem_settle settled)⟩
  | (spelling, tree) :: rest =>
    unfold ofMembers? at read
    split at read
    next name first named found =>
      have here := isRead_of_ofTree? tree found
      have all : ∀ member ∈ (name, first) :: reversed, member.2.IsRead depth :=
        List.forall_mem_cons.mpr ⟨here, earlier⟩
      exact isRead_of_ofMembers? rest all read
    · cases read

end

mutual

/-- A value that reading can give, and that holds no double, is read as it was written. -/
theorem exists_tree {depth : Nat} (value : Value) (read : value.IsRead depth)
    (whole : value.every isNoDouble = true) :
    ∃ tree, value.tree? = some tree ∧ ofTree? depth tree = some value := by
  match value with
  | null => exact ⟨.null, rfl, rfl⟩
  | bool amount => exact ⟨.bool amount, rfl, rfl⟩
  | text content =>
    have back := Spelling.text?_ofText content
    exact ⟨.text (.ofText content), rfl, by rw [ofTree?, back, Option.map_some]⟩
  | number (.float double) => cases whole
  | number (.int amount) =>
    obtain ⟨numeral, written, meaning⟩ := tree?_int amount
    have range := read.regular
    simp only [every, isRegular, Bool.and_eq_true, decide_eq_true_eq] at range
    exact ⟨.number numeral, written, by rw [ofTree?, meaning range.1 range.2, Option.map_some]⟩
  | array items =>
    cases depth with
    | zero => cases read.shallow
    | succ depth =>
      simp only [every, isNoDouble, Bool.true_and] at whole
      obtain ⟨trees, written, back⟩ :=
        exists_treesOfItems items [] (isRead_array_iff.mp read) (everyItem_iff.mp whole)
      exact ⟨.array trees, by rw [tree?, written, Option.map_some], back⟩
  | object members =>
    cases depth with
    | zero => cases read.shallow
    | succ depth =>
      obtain ⟨ordered, inner⟩ := isRead_object_iff.mp read
      simp only [every, isNoDouble, Bool.true_and] at whole
      obtain ⟨trees, written, back⟩ :=
        exists_treesOfMembers members [] inner (everyMember_iff.mp whole)
      rw [List.append_nil, settle_reverse ordered] at back
      exact ⟨.object trees, by rw [tree?, written, Option.map_some], back⟩

theorem exists_treesOfItems {depth : Nat} (items reversed : List Value)
    (read : ∀ item ∈ items, item.IsRead depth)
    (whole : ∀ item ∈ items, item.every isNoDouble = true) :
    ∃ trees, treesOfItems? items = some trees ∧
      ofItems? depth reversed trees = some (array (reversed.reverse ++ items)) := by
  match items with
  | [] => exact ⟨[], rfl, by rw [ofItems?, List.append_nil]⟩
  | item :: rest =>
    obtain ⟨here, later⟩ := List.forall_mem_cons.mp read
    obtain ⟨first, others⟩ := List.forall_mem_cons.mp whole
    obtain ⟨tree, written, back⟩ := exists_tree item here first
    obtain ⟨trees, restWritten, restBack⟩ :=
      exists_treesOfItems rest (item :: reversed) later others
    refine ⟨tree :: trees, by simp [treesOfItems?, written, restWritten], ?_⟩
    simpa [ofItems?, back] using restBack

theorem exists_treesOfMembers {depth : Nat} (members reversed : List (String × Value))
    (read : ∀ member ∈ members, member.2.IsRead depth)
    (whole : ∀ member ∈ members, member.2.every isNoDouble = true) :
    ∃ trees, treesOfMembers? members = some trees ∧
      ofMembers? depth reversed trees = some (object (settle (members.reverse ++ reversed))) := by
  match members with
  | [] => exact ⟨[], rfl, by rw [ofMembers?, List.reverse_nil, List.nil_append]⟩
  | (name, value) :: rest =>
    obtain ⟨here, later⟩ := List.forall_mem_cons.mp read
    obtain ⟨first, others⟩ := List.forall_mem_cons.mp whole
    obtain ⟨tree, written, back⟩ := exists_tree value here first
    obtain ⟨trees, restWritten, restBack⟩ :=
      exists_treesOfMembers rest ((name, value) :: reversed) later others
    refine ⟨(.ofText name, tree) :: trees, by simp [treesOfMembers?, written, restWritten], ?_⟩
    simpa [ofMembers?, Spelling.text?_ofText, back] using restBack

end

end Value

theorem Tree.exists_nat {amount : Nat} (bound : amount ≤ maxWord64) :
    ∃ numeral, (Value.int amount).tree? = some (.number numeral) ∧
      ∀ high, amount ≤ high → (number numeral).nat? high = some amount := by
  obtain ⟨numeral, written, value⟩ := Value.tree?_int amount
  refine ⟨numeral, written, fun high below => ?_⟩
  simp [nat?, int?, value (by omega) (by omega), below]

theorem Tree.exists_word32 (word : UInt32) : ∃ numeral,
    (Value.int word.toNat).tree? = some (.number numeral) ∧
      (number numeral).nat? 0xFFFFFFFF = some word.toNat := by
  have narrow : word.toNat ≤ 0xFFFFFFFF := Nat.le_of_lt_succ word.toNat_lt
  obtain ⟨numeral, written, read⟩ := exists_nat (Nat.le_trans narrow (by decide))
  exact ⟨numeral, written, read _ narrow⟩

end GridDiffusion.Json
