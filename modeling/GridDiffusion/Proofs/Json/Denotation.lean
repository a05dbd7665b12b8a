import GridDiffusion.Proofs.Json.Fields
import GridDiffusion.Proofs.Json.ReadBack
/-! Which value a tree stands for, said without the reader: items stand in their order, and an
object has each of its names once, in name order, with what the last member of that name stands for.
-/
namespace GridDiffusion.Json

namespace Tree

mutual

/-- The value that a tree stands for. -/
inductive Denotes : Tree → Value → Prop
  | null : Denotes .null .null
  | bool (value : Bool) : Denotes (.bool value) (.bool value)
  | number {numeral : Numeral} {number : Number} (stands : numeral.Denotes number) :
    Denotes (.number numeral) (.number number)
  | text {spelling : Spelling} {value : String} (means : spelling.Means value.toList) :
    Denotes (.text spelling) (.text value)
  | array {items : List Tree} {values : List Value} (each : List.Forall₂ Denotes items values) :
    Denotes (.array items) (.array values)
  | object {members : List (Spelling × Tree)} {named : List (String × Value)}
    (gathered : Gathered members named) : Denotes (.object members) (.object named)

/-- The members of an object by name: each of their names once, in name order, with what the last
member of that name stands for. -/
inductive Gathered : List (Spelling × Tree) → List (String × Value) → Prop
  | intro {members : List (Spelling × Tree)} {named : List (String × Value)}
    (ordered : Value.Ordered named)
    (names : ∀ name, name ∈ named.map Prod.fst ↔ ∃ field, LastNamed name field members)
    (last : ∀ name field value, LastNamed name field members → (name, value) ∈ named →
      Denotes field value) : Gathered members named

end

end Tree

namespace Value

variable {name : String} {value : Value} {members : List (String × Value)}

theorem notMem_names_of_lt (below : ∀ member ∈ members, compare name member.1 = .lt) :
    name ∉ members.map Prod.fst := by
  intro inside
  obtain ⟨member, present, same⟩ := List.mem_map.mp inside
  have less := below member present
  have equal : compare name member.1 = .eq := Std.compare_eq_iff_eq.mpr same.symm
  rw [equal] at less
  cases less

/-- A member is added unless its name is there already. -/
theorem mem_addMember_iff (ordered : Ordered members) {entry : String × Value} :
    entry ∈ addMember name value members ↔
      entry ∈ members ∨ entry = (name, value) ∧ name ∉ members.map Prod.fst := by
  induction members with
  | nil => simp [addMember]
  | cons head rest ih =>
    obtain ⟨below, tail⟩ := List.pairwise_cons.mp ordered
    unfold addMember
    split
    next before =>
      have fresh : name ∉ (head :: rest).map Prod.fst := notMem_names_of_lt <|
        List.forall_mem_cons.mpr ⟨before, fun member inside =>
          Std.TransCmp.lt_trans before (below member inside)⟩
      rw [List.mem_cons, or_comm, and_iff_left fresh]
    next same =>
      have again : name ∈ (head :: rest).map Prod.fst := by
        rw [Std.LawfulEqCmp.eq_of_compare same]
        exact List.mem_cons_self
      exact (or_iff_left fun added => added.2 again).symm
    next after =>
      have apart : name ≠ head.1 := by
        intro same
        rw [Std.compare_eq_iff_eq.mpr same] at after
        cases after
      rw [List.mem_cons, ih tail, List.mem_cons, List.map_cons, List.mem_cons, or_assoc]
      simp only [apart, false_or]

theorem mem_names_addMember_iff (ordered : Ordered members) {other : String} :
    other ∈ (addMember name value members).map Prod.fst ↔
      other ∈ members.map Prod.fst ∨ other = name := by
  simp only [List.mem_map, mem_addMember_iff ordered]
  constructor
  · rintro ⟨entry, inside | ⟨rfl, -⟩, rfl⟩
    · exact .inl ⟨entry, inside, rfl⟩
    · exact .inr rfl
  · rintro (⟨entry, inside, rfl⟩ | rfl)
    · exact ⟨entry, .inl inside, rfl⟩
    · by_cases again : ∃ entry ∈ members, entry.1 = other
      · obtain ⟨entry, inside, same⟩ := again
        exact ⟨entry, .inl inside, same⟩
      · exact ⟨(other, value), .inr ⟨rfl, again⟩, rfl⟩

end Value

namespace Tree

variable {members : List (Spelling × Tree)} {fields : List (String × Value)}

def AreFields : List (Spelling × Tree) → List (String × Value) → Prop :=
  List.Forall₂ fun member field => member.1.Means field.1.toList ∧ member.2.Denotes field.2

theorem AreFields.mem_settle_iff (are : AreFields members fields) {name : String} :
    name ∈ (Value.settle fields.reverse).map Prod.fst ↔
      ∃ member ∈ members, member.1.Means name.toList := by
  induction are with
  | nil => exact iff_of_false nofun nofun
  | @cons member field rest others own _ ih =>
    rw [List.reverse_cons, Value.settle_concat,
      Value.mem_names_addMember_iff (Value.ordered_settle _), ih, name_eq_iff own.1, or_comm]
    simp only [List.mem_cons, exists_eq_or_imp]

/-- What settles for a name is what the last member of that name stands for. -/
theorem AreFields.denotes_of_mem_settle (are : AreFields members fields) {name : String}
    {field : Tree} {value : Value} (last : LastNamed name field members)
    (settled : (name, value) ∈ Value.settle fields.reverse) : field.Denotes value := by
  induction are with
  | nil => cases last
  | @cons member entry rest others own later ih =>
    rw [List.reverse_cons, Value.settle_concat,
      Value.mem_addMember_iff (Value.ordered_settle _), AreFields.mem_settle_iff later] at settled
    rcases lastNamed_cons_iff.mp last with behind | ⟨means, rfl, only⟩
    · have repeated := exists_lastNamed_iff.mp ⟨field, behind⟩
      rcases settled with inside | ⟨same, fresh⟩
      · exact ih behind inside
      · cases same
        exact absurd repeated fresh
    · rcases settled with inside | ⟨same, -⟩
      · exact absurd ((AreFields.mem_settle_iff later).mp (List.mem_map_of_mem inside)) only
      · cases same
        exact own.2

theorem AreFields.denotes (are : AreFields members fields) :
    (object members).Denotes (.object (Value.settle fields.reverse)) :=
  .object <| .intro (Value.ordered_settle _)
    (fun _ => are.mem_settle_iff.trans exists_lastNamed_iff.symm)
    fun _ _ _ => are.denotes_of_mem_settle

mutual

theorem denotes_of_ofTree? {depth : Nat} {value : Value} (tree : Tree)
    (read : Value.ofTree? depth tree = some value) : tree.Denotes value := by
  match tree with
  | .null =>
    cases read
    exact .null
  | .bool flag =>
    cases read
    exact .bool flag
  | .number numeral =>
    obtain ⟨number, found, rfl⟩ := Option.map_eq_some_iff.mp read
    exact .number (Numeral.value?_eq_some_iff.mp found)
  | .text spelling =>
    obtain ⟨text, found, rfl⟩ := Option.map_eq_some_iff.mp read
    exact .text (Spelling.text?_eq_some_iff.mp found)
  | .array items =>
    cases depth with
    | zero => cases read
    | succ depth =>
      obtain ⟨values, rfl, each⟩ := denote_of_ofItems? items read
      exact .array each
  | .object members =>
    cases depth with
    | zero => cases read
    | succ depth =>
      obtain ⟨fields, rfl, are⟩ := denote_of_ofMembers? members read
      rw [List.append_nil]
      exact are.denotes

theorem denote_of_ofItems? {depth : Nat} {reversed : List Value} {value : Value}
    (items : List Tree) (read : Value.ofItems? depth reversed items = some value) :
    ∃ values, value = .array (reversed.reverse ++ values) ∧
      List.Forall₂ Denotes items values := by
  match items with
  | [] =>
    cases read
    exact ⟨[], by rw [List.append_nil], .nil⟩
  | item :: rest =>
    unfold Value.ofItems? at read
    split at read
    · cases read
    next first found =>
      obtain ⟨values, rfl, each⟩ := denote_of_ofItems? rest read
      exact ⟨first :: values, by simp, .cons (denotes_of_ofTree? item found) each⟩

theorem denote_of_ofMembers? {depth : Nat} {reversed : List (String × Value)} {value : Value}
    (members : List (Spelling × Tree))
    (read : Value.ofMembers? depth reversed members = some value) :
    ∃ fields, value = .object (Value.settle (fields.reverse ++ reversed)) ∧
      AreFields members fields := by
  match members with
  | [] =>
    cases read
    exact ⟨[], rfl, .nil⟩
  | (spelling, tree) :: rest =>
    unfold Value.ofMembers? at read
    split at read
    next name first named found =>
      obtain ⟨fields, rfl, are⟩ := denote_of_ofMembers? rest read
      have own := And.intro (Spelling.text?_eq_some_iff.mp named) (denotes_of_ofTree? tree found)
      exact ⟨(name, first) :: fields, by simp, .cons own are⟩
    · cases read

end

theorem Gathered.ordered {named : List (String × Value)} :
    Gathered members named → Value.Ordered named
  | .intro ordered .. => ordered

/-- Where the fields of an object stand for one value each, so does the object. -/
theorem Gathered.subset {named again : List (String × Value)} (one : Gathered members named)
    (other : Gathered members again)
    (unique : ∀ {name field left right}, LastNamed name field members → Denotes field left →
      Denotes field right → left = right) {entry : String × Value} (inside : entry ∈ named) :
    entry ∈ again := by
  obtain ⟨-, names, reads⟩ := one
  obtain ⟨-, namesAgain, readsAgain⟩ := other
  obtain ⟨field, last⟩ := (names entry.1).mp (List.mem_map_of_mem inside)
  obtain ⟨⟨name, value⟩, present, rfl⟩ := List.mem_map.mp ((namesAgain entry.1).mpr ⟨field, last⟩)
  have equal := unique last (reads _ _ _ last inside) (readsAgain _ _ _ last present)
  rwa [← equal] at present

mutual

theorem Denotes.unique {left right : Value} (tree : Tree) (one : tree.Denotes left)
    (other : tree.Denotes right) : left = right := by
  match tree with
  | .null | .bool _ =>
    cases one
    cases other
    rfl
  | .number numeral =>
    obtain _ | _ | stands := one
    obtain _ | _ | again := other
    have read := Numeral.value?_eq_some_iff.mpr stands
    rw [Numeral.value?_eq_some_iff.mpr again] at read
    cases read
    rfl
  | .text spelling =>
    obtain _ | _ | _ | means := one
    obtain _ | _ | _ | again := other
    rw [means_unique means again]
  | .array items =>
    obtain _ | _ | _ | _ | each := one
    obtain _ | _ | _ | _ | again := other
    rw [Denotes.unique_items items each again]
  | .object members =>
    obtain _ | _ | _ | _ | _ | gathered := one
    obtain _ | _ | _ | _ | _ | again := other
    rename_i named more
    have same : (⟨named, gathered.ordered⟩ : SortedMap String Value) = ⟨more, again.ordered⟩ :=
      SortedMap.ext_mem fun entry => ⟨gathered.subset again (Denotes.unique_member members),
        again.subset gathered (Denotes.unique_member members)⟩
    exact congrArg (fun sorted => Value.object sorted.entries) same

theorem Denotes.unique_items {left right : List Value} (items : List Tree)
    (one : List.Forall₂ Denotes items left) (other : List.Forall₂ Denotes items right) :
    left = right := by
  match items with
  | [] =>
    cases one
    cases other
    rfl
  | item :: rest =>
    obtain _ | ⟨own, later⟩ := one
    obtain _ | ⟨again, laterAgain⟩ := other
    rw [Denotes.unique item own again, Denotes.unique_items rest later laterAgain]

theorem Denotes.unique_member {left right : Value} {name : String} {field : Tree}
    (members : List (Spelling × Tree)) (last : LastNamed name field members)
    (one : field.Denotes left) (other : field.Denotes right) : left = right := by
  match members with
  | [] => cases last
  | (_, tree) :: rest =>
    rcases lastNamed_cons_iff.mp last with behind | ⟨-, same, -⟩
    · exact Denotes.unique_member rest behind one other
    · -- The recursion is on the parts of the object, so the field is written as the part that it is.
      rw [← same] at one other
      exact Denotes.unique tree one other

end

/-- What a tree is read as is the value that it stands for, if it has a meaning within the limit. -/
theorem ofTree?_eq_some_iff {depth : Nat} {tree : Tree} {value : Value} :
    Value.ofTree? depth tree = some value ↔ tree.HasMeaning depth ∧ tree.Denotes value := by
  constructor
  · intro read
    exact ⟨(isReadable_iff tree).mp (Option.isSome_of_eq_some read), denotes_of_ofTree? tree read⟩
  · rintro ⟨meaning, denotes⟩
    obtain ⟨other, read⟩ := Option.isSome_iff_exists.mp ((isReadable_iff tree).mpr meaning)
    rw [read, Denotes.unique tree denotes (denotes_of_ofTree? tree read)]

theorem denotes_null_iff {tree : Tree} : tree.Denotes .null ↔ tree = .null := by
  constructor
  · rintro ⟨⟩
    rfl
  · rintro rfl
    exact .null

theorem exists_denotes_object_iff {depth : Nat} {tree : Tree} (meaning : tree.HasMeaning depth) :
    (∃ named, tree.Denotes (.object named)) ↔ ∃ members, tree = .object members := by
  constructor
  · rintro ⟨named, ⟨⟩⟩
    exact ⟨_, rfl⟩
  · rintro ⟨members, rfl⟩
    obtain ⟨value, read⟩ := Option.isSome_iff_exists.mp ((isReadable_iff _).mpr meaning)
    obtain _ | _ | _ | _ | _ | gathered := denotes_of_ofTree? _ read
    exact ⟨_, .object gathered⟩

end Tree
end GridDiffusion.Json
