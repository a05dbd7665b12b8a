import GridDiffusion.Proofs.Json.Meaning
import GridDiffusion.Proofs.SortedMap
/-! Records of a document by what their trees are: which trees are records of named fields, which
tree a record gives for a field, and which trees are maps. -/
namespace GridDiffusion.Json.Tree

/-- The last member of a name. -/
inductive LastNamed (name : String) (field : Tree) : List (Spelling × Tree) → Prop
  | here {spelling : Spelling} {rest : List (Spelling × Tree)} (named : spelling.Means name.toList)
    (last : ∀ other ∈ rest, ¬ other.1.Means name.toList) :
    LastNamed name field ((spelling, field) :: rest)
  | later {member : Spelling × Tree} {rest : List (Spelling × Tree)}
    (behind : LastNamed name field rest) : LastNamed name field (member :: rest)

/-- A record of named fields: an object in which, where repeats are refused, no field stands twice,
or an array of no more items than fields. -/
inductive IsRecord (repeats : Repeats) (names : List String) : Tree → Prop
  | object {members : List (Spelling × Tree)}
    (named : ∀ member ∈ members, ∃ characters, member.1.Means characters)
    (once : repeats = .refused → ∀ name ∈ names, members.Pairwise fun earlier later =>
      ¬ (earlier.1.Means name.toList ∧ later.1.Means name.toList)) :
    IsRecord repeats names (.object members)
  | array {items : List Tree} (short : items.length ≤ names.length) :
    IsRecord repeats names (.array items)

/-- What a record gives for one of its fields: the last member of that name, or the item at its
place. -/
inductive Gives (names : List String) (name : String) : Tree → Tree → Prop
  | member {members : List (Spelling × Tree)} {field : Tree} (listed : name ∈ names)
    (last : LastNamed name field members) : Gives names name (.object members) field
  | item {items : List Tree} {field : Tree} {index : Nat} (named : names[index]? = some name)
    (present : items[index]? = some field) : Gives names name (.array items) field

/-- A record gives a field, and what it gives is as asked. -/
def Requires (names : List String) (name : String) (Suits : Tree → Prop) (tree : Tree) : Prop :=
  ∃ field, tree.Gives names name field ∧ Suits field

/-- A record gives a field as asked, or does not give it where it may be absent. -/
def Permits (names : List String) (name : String) (Absent : Prop) (Suits : Tree → Prop)
    (tree : Tree) : Prop :=
  tree.Requires names name Suits ∨ (∀ field, ¬ tree.Gives names name field) ∧ Absent

/-- A map, as an object that gives each of its keys a last member. -/
inductive IsMap {Result : Type} (Reads : Tree → Result → Prop) (items : SortedMap String Result) :
    Tree → Prop
  | object {members : List (Spelling × Tree)}
    (named : ∀ member ∈ members, ∃ characters, member.1.Means characters)
    (all : ∀ name field, LastNamed name field members → ∃ result, Reads field result)
    (same : ∀ name result, items.get? name = some result ↔
      ∃ field, LastNamed name field members ∧ Reads field result) :
    IsMap Reads items (.object members)

variable {members : List (Spelling × Tree)} {named : List (String × Tree)} {names : List String}

theorem mapM_cons_eq_some_iff {Entry Result : Type} {read : Entry → Option Result} {entry : Entry}
    {rest : List Entry} {results : List Result} :
    (entry :: rest).mapM read = some results ↔ ∃ result later, read entry = some result ∧
      rest.mapM read = some later ∧ results = result :: later := by
  rw [List.mapM_cons]
  constructor
  · intro all
    obtain ⟨result, first, others⟩ := Option.bind_eq_some_iff.mp all
    obtain ⟨later, found, same⟩ := Option.bind_eq_some_iff.mp others
    cases same
    exact ⟨result, later, first, found, rfl⟩
  · rintro ⟨result, later, first, found, rfl⟩
    rw [first, found]
    rfl

theorem isSome_mapM_iff {Entry Result : Type} {read : Entry → Option Result} {entries : List Entry} :
    (entries.mapM read).isSome = true ↔ ∀ entry ∈ entries, (read entry).isSome = true := by
  induction entries with
  | nil => exact iff_of_true rfl (List.forall_mem_nil _)
  | cons entry rest ih =>
    rw [List.forall_mem_cons, ← ih, List.mapM_cons]
    cases read entry <;> cases rest.mapM read <;> simp

theorem isSome_namedMembers?_iff : (namedMembers? members).isSome = true ↔
    ∀ member ∈ members, ∃ characters, member.1.Means characters := by
  simp only [namedMembers?, isSome_mapM_iff, Option.isSome_map, isSome_text?_iff]

theorem namedMembers?_cons_iff {member : Spelling × Tree} {rest : List (Spelling × Tree)} :
    namedMembers? (member :: rest) = some named ↔
      ∃ name others, member.1.Means name.toList ∧ namedMembers? rest = some others ∧
        named = (name, member.2) :: others := by
  rw [namedMembers?, mapM_cons_eq_some_iff]
  constructor
  · rintro ⟨_, others, first, found, rfl⟩
    obtain ⟨name, text, rfl⟩ := Option.map_eq_some_iff.mp first
    exact ⟨name, others, Spelling.text?_eq_some_iff.mp text, found, rfl⟩
  · rintro ⟨name, others, means, found, rfl⟩
    refine ⟨(name, member.2), others, ?_, found, rfl⟩
    rw [Spelling.text?_eq_some_iff.mpr means, Option.map_some]

theorem name_eq_iff {member : Spelling × Tree} {own name : String}
    (means : member.1.Means own.toList) : name = own ↔ member.1.Means name.toList :=
  ⟨fun same => same ▸ means, fun other => means_unique other means⟩

theorem mem_names_iff (read : namedMembers? members = some named) {name : String} :
    name ∈ named.map Prod.fst ↔ ∃ member ∈ members, member.1.Means name.toList := by
  induction members generalizing named with
  | nil => cases read; simp
  | cons member rest ih =>
    obtain ⟨own, others, means, found, rfl⟩ := namedMembers?_cons_iff.mp read
    rw [List.map_cons, List.mem_cons, ih found, name_eq_iff means]
    simp only [List.mem_cons, exists_eq_or_imp]

theorem any_name_iff {name : String} :
    named.any (·.1 == name) = true ↔ name ∈ named.map Prod.fst := by
  simp [List.any_eq_true, List.mem_map]

theorem lastNamed_cons_iff {name : String} {field : Tree} {member : Spelling × Tree}
    {rest : List (Spelling × Tree)} : LastNamed name field (member :: rest) ↔
      LastNamed name field rest ∨ member.1.Means name.toList ∧ member.2 = field ∧
        ¬ ∃ other ∈ rest, other.1.Means name.toList := by
  constructor
  · intro last
    cases last with
    | here named last => exact .inr ⟨named, rfl, fun ⟨other, inside, means⟩ => last other inside means⟩
    | later behind => exact .inl behind
  · rintro (behind | ⟨means, rfl, last⟩)
    · exact .later behind
    · exact .here means fun other inside repeated => last ⟨other, inside, repeated⟩

theorem exists_lastNamed_iff {name : String} : (∃ field, LastNamed name field members) ↔
    ∃ member ∈ members, member.1.Means name.toList := by
  induction members with
  | nil => exact iff_of_false nofun nofun
  | cons member rest ih =>
    simp only [lastNamed_cons_iff, exists_or, ih, List.mem_cons, exists_eq_or_imp]
    constructor
    · rintro (later | ⟨_, means, -⟩)
      · exact .inr later
      · exact .inl means
    · rintro (means | later)
      · by_cases again : ∃ other ∈ rest, other.1.Means name.toList
        · exact .inl again
        · exact .inr ⟨_, means, rfl, again⟩
      · exact .inl later

theorem mem_lastOfEach_iff (read : namedMembers? members = some named) {name : String}
    {field : Tree} : (name, field) ∈ lastOfEach named ↔ LastNamed name field members := by
  induction members generalizing named with
  | nil => cases read; exact iff_of_false nofun nofun
  | cons member rest ih =>
    obtain ⟨own, others, means, found, rfl⟩ := namedMembers?_cons_iff.mp read
    rw [lastOfEach, lastNamed_cons_iff, ← ih found, ← mem_names_iff found, ← name_eq_iff means]
    split
    next repeated =>
      have again : own ∈ others.map Prod.fst := any_name_iff.mp repeated
      exact (or_iff_left fun ⟨same, _, last⟩ => last (same ▸ again)).symm
    next fresh =>
      have last : own ∉ others.map Prod.fst := fun again => fresh (any_name_iff.mpr again)
      rw [List.mem_cons, Prod.mk.injEq, or_comm, eq_comm (a := field)]
      refine or_congr_right (and_congr_right fun same => ?_)
      exact (and_iff_left (same ▸ last)).symm

theorem hasRepeat_eq_false_iff : hasRepeat named = false ↔ (named.map Prod.fst).Nodup := by
  induction named with
  | nil => simp [hasRepeat]
  | cons member rest ih =>
    rw [hasRepeat, Bool.or_eq_false_iff, ih, List.map_cons, List.nodup_cons, ← any_name_iff,
      Bool.not_eq_true]

theorem mem_names_of_lastOfEach {name : String} (member : name ∈ (lastOfEach named).map Prod.fst) :
    name ∈ named.map Prod.fst := by
  induction named with
  | nil => exact member
  | cons first rest ih =>
    rw [lastOfEach] at member
    split at member
    · exact .tail _ (ih member)
    · rcases List.mem_cons.mp member with same | inside
      · exact same ▸ List.mem_cons_self
      · exact .tail _ (ih inside)

theorem nodup_lastOfEach (named : List (String × Tree)) :
    ((lastOfEach named).map Prod.fst).Nodup := by
  induction named with
  | nil => exact .nil
  | cons first rest ih =>
    rw [lastOfEach]
    split
    · exact ih
    next fresh =>
      refine List.nodup_cons.mpr ⟨fun repeated => fresh ?_, ih⟩
      exact any_name_iff.mpr (mem_names_of_lastOfEach repeated)

theorem lastOfEach_of_nodup (distinct : (named.map Prod.fst).Nodup) : lastOfEach named = named := by
  induction named with
  | nil => rfl
  | cons member rest ih =>
    obtain ⟨fresh, others⟩ := List.nodup_cons.mp distinct
    rw [lastOfEach, if_neg fun repeated => fresh (any_name_iff.mp repeated), ih others]

theorem lookup_eq_some_iff_mem (single : (named.map Prod.fst).Nodup) {name : String}
    {field : Tree} : named.lookup name = some field ↔ (name, field) ∈ named := by
  induction named with
  | nil => exact iff_of_false nofun nofun
  | cons member rest ih =>
    obtain ⟨fresh, others⟩ := List.nodup_cons.mp single
    rw [List.lookup_cons, List.mem_cons, Prod.ext_iff]
    by_cases same : name = member.1
    · subst same
      have absent : (member.1, field) ∉ rest := fun inside =>
        fresh (List.mem_map.mpr ⟨_, inside, rfl⟩)
      simp [absent, eq_comm]
    · have unlike : (name == member.1) = false := beq_eq_false_iff_ne.mpr same
      simp [same, unlike, ih others]

def known (names : List String) (named : List (String × Tree)) : List (String × Tree) :=
  named.filter fun member => names.contains member.1

theorem known_cons (names : List String) (member : String × Tree) (rest : List (String × Tree)) :
    known names (member :: rest) =
      if member.1 ∈ names then member :: known names rest else known names rest := by
  simp only [known, List.filter_cons, List.contains_iff_mem]

theorem mem_known_iff {member : String × Tree} :
    member ∈ known names named ↔ member.1 ∈ names ∧ member ∈ named := by
  rw [known, List.mem_filter, List.contains_iff_mem, and_comm]

theorem mem_names_known_iff {name : String} :
    name ∈ (known names named).map Prod.fst ↔ name ∈ names ∧ name ∈ named.map Prod.fst := by
  simp only [List.mem_map, mem_known_iff]
  constructor
  · rintro ⟨member, ⟨listed, inside⟩, rfl⟩
    exact ⟨listed, member, inside, rfl⟩
  · rintro ⟨listed, member, inside, rfl⟩
    exact ⟨member, ⟨listed, inside⟩, rfl⟩

theorem hasRepeat_known_cons_iff {member : String × Tree} {rest : List (String × Tree)} :
    hasRepeat (known names (member :: rest)) = false ↔
      (member.1 ∈ names → member.1 ∉ rest.map Prod.fst) ∧ hasRepeat (known names rest) = false := by
  rw [known_cons]
  split
  next listed =>
    rw [hasRepeat, Bool.or_eq_false_iff, ← Bool.not_eq_true, any_name_iff, mem_names_known_iff]
    simp [listed]
  next unlisted => simp [unlisted]

theorem known_lastOfEach (single : hasRepeat (known names named) = false) :
    known names (lastOfEach named) = known names named := by
  induction named with
  | nil => rfl
  | cons member rest ih =>
    obtain ⟨fresh, others⟩ := hasRepeat_known_cons_iff.mp single
    rw [lastOfEach, known_cons names member rest]
    split
    next repeated =>
      rw [if_neg fun listed => fresh listed (any_name_iff.mp repeated), ih others]
    · rw [known_cons, ih others]

theorem hasRepeat_known_iff (read : namedMembers? members = some named) :
    hasRepeat (known names named) = false ↔ ∀ name ∈ names, members.Pairwise fun earlier later =>
      ¬ (earlier.1.Means name.toList ∧ later.1.Means name.toList) := by
  induction members generalizing named with
  | nil => cases read; simp [known, hasRepeat]
  | cons member rest ih =>
    obtain ⟨own, others, means, found, rfl⟩ := namedMembers?_cons_iff.mp read
    rw [hasRepeat_known_cons_iff, ih found, mem_names_iff found]
    simp only [List.pairwise_cons, forall_and]
    refine and_congr_left fun _ => ⟨fun fresh name listed other inside both => ?_, ?_⟩
    · obtain rfl := means_unique means both.1
      exact fresh listed ⟨other, inside, both.2⟩
    · intro once listed repeated
      obtain ⟨other, inside, again⟩ := repeated
      exact once own listed other inside ⟨means, again⟩

theorem lookup_zip_iff {name : String} {field : Tree} {items : List Tree} (distinct : names.Nodup) :
    (names.zip items).lookup name = some field ↔
      ∃ index : Nat, names[index]? = some name ∧ items[index]? = some field := by
  induction names generalizing items with
  | nil => simp
  | cons first names ih =>
    obtain ⟨fresh, others⟩ := List.nodup_cons.mp distinct
    cases items with
    | nil => simp
    | cons item items =>
      rw [List.zip_cons_cons, List.lookup_cons]
      by_cases same : name = first
      · subst same
        simp only [beq_self_eq_true]
        refine ⟨fun here => ⟨0, rfl, here⟩, fun found => ?_⟩
        obtain ⟨index, named, present⟩ := found
        cases index with
        | zero => exact present
        | succ index => exact absurd (List.mem_of_getElem? (l := names) named) fresh
      · simp only [beq_eq_false_iff_ne.mpr same, ih others]
        refine ⟨fun ⟨index, later⟩ => ⟨index + 1, later⟩, fun found => ?_⟩
        obtain ⟨index, named, present⟩ := found
        cases index with
        | zero => exact absurd (Option.some.inj named).symm same
        | succ index => exact ⟨index, named, present⟩

theorem nodup_known_lastOfEach (names : List String) (named : List (String × Tree)) :
    ((known names (lastOfEach named)).map Prod.fst).Nodup :=
  (nodup_lastOfEach named).sublist (List.filter_sublist.map Prod.fst)

/-- The fields of an object are its last known members. -/
theorem record?_object (repeats : Repeats) (names : List String)
    (members : List (Spelling × Tree)) :
    (object members).record? repeats names = (namedMembers? members).bind fun named =>
      if repeats = .refused ∧ hasRepeat (known names named) = true then none
      else some ⟨known names (lastOfEach named)⟩ := by
  cases read : namedMembers? members with
  | none => cases repeats <;> simp [record?, members?, read]
  | some named =>
    cases repeats with
    | refused =>
      simp only [record?, members?, read, Option.bind_eq_bind, Option.bind_some, true_and]
      change (if hasRepeat (known names named) = true then _
        else some (Record.mk (known names named))) = _
      split
      · rfl
      next single => rw [known_lastOfEach (Bool.eq_false_iff.mpr single)]
    | lastWins =>
      have single := hasRepeat_eq_false_iff.mpr (nodup_known_lastOfEach names named)
      simp only [record?, members?, read, Option.bind_eq_bind, Option.bind_some, Option.map_some]
      exact (if_neg (Bool.eq_false_iff.mp single)).trans
        (if_neg fun refused => nomatch refused.1).symm

def ofFields (fields : List (String × Tree)) : Tree :=
  object (fields.map fun field => (.ofText field.1, field.2))

theorem namedMembers?_ofFields (fields : List (String × Tree)) :
    namedMembers? (fields.map fun field => (.ofText field.1, field.2)) = some fields := by
  induction fields with
  | nil => rfl
  | cons field rest ih =>
    rw [namedMembers?] at ih
    simp [namedMembers?, Spelling.text?_ofText, ih]

/-- An object that is written with known names, none of them twice, is the record of its fields. -/
theorem record?_ofFields (repeats : Repeats) {fields : List (String × Tree)}
    (listed : ∀ name ∈ fields.map Prod.fst, name ∈ names) (distinct : (fields.map Prod.fst).Nodup) :
    (ofFields fields).record? repeats names = some ⟨fields⟩ := by
  have all : known names fields = fields := List.filter_eq_self.mpr fun field member =>
    List.contains_iff_mem.mpr (listed field.1 (List.mem_map_of_mem member))
  rw [ofFields, record?_object, namedMembers?_ofFields, Option.bind_some,
    lastOfEach_of_nodup distinct, all, hasRepeat_eq_false_iff.mpr distinct, if_neg (by simp)]

theorem isSome_record?_iff {repeats : Repeats} {tree : Tree} :
    (tree.record? repeats names).isSome = true ↔ tree.IsRecord repeats names := by
  cases tree with
  | array items =>
    rw [record?]
    refine ⟨fun read => ?_, fun shown => ?_⟩
    · split at read
      next short => exact .array short
      · cases read
    · cases shown with
      | array short => rw [if_pos short]; rfl
  | object members =>
    rw [record?_object]
    have texts : (namedMembers? members).isSome = true ↔ _ := isSome_namedMembers?_iff
    cases read : namedMembers? members with
    | none =>
      rw [read] at texts
      refine iff_of_false Bool.false_ne_true fun shown => ?_
      cases shown with
      | object named => exact Bool.false_ne_true (texts.mpr named)
    | some named =>
      rw [read] at texts
      have fields : ∀ member ∈ members, ∃ characters, member.1.Means characters := texts.mp rfl
      have single : hasRepeat (known names named) = false ↔ _ := hasRepeat_known_iff read
      rw [Option.bind_some]
      refine ⟨fun stays => .object fields fun refused => ?_, fun shown => ?_⟩
      · split at stays
        · cases stays
        next allowed =>
          exact single.mp (Bool.eq_false_iff.mpr fun repeated => allowed ⟨refused, repeated⟩)
      · cases shown with
        | object _ once =>
          rw [if_neg fun ⟨refused, repeated⟩ =>
            Bool.eq_false_iff.mp (single.mpr (once refused)) repeated]
          rfl
  | _ => exact iff_of_false Bool.false_ne_true nofun

theorem get?_record_iff {repeats : Repeats} {tree field : Tree} {record : Record} {name : String}
    (read : tree.record? repeats names = some record) (distinct : names.Nodup) :
    record.get? name = some field ↔ tree.Gives names name field := by
  cases tree with
  | array items =>
    rw [record?] at read
    obtain ⟨_, same⟩ := Option.ite_none_right_eq_some.mp read
    cases same
    refine (lookup_zip_iff distinct).trans ⟨fun ⟨_, own, present⟩ => .item own present, fun gives => ?_⟩
    cases gives with
    | item own present => exact ⟨_, own, present⟩
  | object members =>
    rw [record?_object, Option.bind_eq_some_iff] at read
    obtain ⟨named, found, stays⟩ := read
    obtain ⟨_, same⟩ := Option.ite_none_left_eq_some.mp stays
    cases same
    rw [Record.get?, lookup_eq_some_iff_mem (nodup_known_lastOfEach names named), mem_known_iff,
      mem_lastOfEach_iff found]
    refine ⟨fun ⟨listed, last⟩ => .member listed last, fun gives => ?_⟩
    cases gives with
    | member listed last => exact ⟨listed, last⟩
  | _ => cases read

section Fields

variable {repeats : Repeats} {tree : Tree} {record : Record} {name : String} {Result : Type}
  {fieldRead : Tree → Option Result} {result absent : Result} {Suits : Tree → Prop}

theorem requires_of_required (read : tree.record? repeats names = some record)
    (distinct : names.Nodup) (given : record.required name fieldRead = some result)
    (reads : ∀ field, fieldRead field = some result → Suits field) :
    tree.Requires names name Suits := by
  obtain ⟨field, found, value⟩ := Option.bind_eq_some_iff.mp given
  exact ⟨field, (get?_record_iff read distinct).mp found, reads field value⟩

theorem required_of_requires (read : tree.record? repeats names = some record)
    (distinct : names.Nodup) (given : tree.Requires names name Suits)
    (reads : ∀ field, Suits field → fieldRead field = some result) :
    record.required name fieldRead = some result := by
  obtain ⟨field, gives, suits⟩ := given
  have found := (get?_record_iff read distinct).mpr gives
  exact Option.bind_eq_some_iff.mpr ⟨field, found, reads field suits⟩

theorem required_eq_some_iff (read : tree.record? repeats names = some record)
    (distinct : names.Nodup) (reads : ∀ field, fieldRead field = some result ↔ Suits field) :
    record.required name fieldRead = some result ↔ tree.Requires names name Suits :=
  ⟨fun given => requires_of_required read distinct given fun field => (reads field).mp,
    fun given => required_of_requires read distinct given fun field => (reads field).mpr⟩

theorem optional_eq_some_iff (read : tree.record? repeats names = some record)
    (distinct : names.Nodup) (reads : ∀ field, fieldRead field = some result ↔ Suits field) :
    record.optional name absent fieldRead = some result ↔
      tree.Permits names name (absent = result) Suits := by
  have given (field : Tree) : record.get? name = some field ↔ _ :=
    get?_record_iff read distinct
  simp only [Record.optional, Permits, Requires, ← given, ← reads]
  cases record.get? name <;> simp

end Fields

section Maps

variable {Result : Type} {memberRead : Tree → Option Result} {Reads : Tree → Result → Prop}
  {items : SortedMap String Result} {tree : Tree} {pairs : List (String × Result)}

theorem names_of_mapM (all : named.mapM (fun member => (memberRead member.2).map (member.1, ·)) =
    some pairs) : pairs.map Prod.fst = named.map Prod.fst := by
  induction named generalizing pairs with
  | nil => cases all; rfl
  | cons member rest ih =>
    obtain ⟨_, later, first, others, rfl⟩ := mapM_cons_eq_some_iff.mp all
    obtain ⟨result, _, rfl⟩ := Option.map_eq_some_iff.mp first
    rw [List.map_cons, List.map_cons, ih others]

theorem mem_of_mapM_iff (all : named.mapM (fun member => (memberRead member.2).map (member.1, ·)) =
    some pairs) {name : String} {result : Result} : (name, result) ∈ pairs ↔
      ∃ field, (name, field) ∈ named ∧ memberRead field = some result := by
  induction named generalizing pairs with
  | nil => cases all; simp
  | cons member rest ih =>
    obtain ⟨_, later, first, others, rfl⟩ := mapM_cons_eq_some_iff.mp all
    obtain ⟨own, found, rfl⟩ := Option.map_eq_some_iff.mp first
    obtain ⟨key, tree⟩ := member
    simp only [List.mem_cons, ih others, Prod.mk.injEq, or_and_right, exists_or]
    refine or_congr_left ⟨fun ⟨same, equal⟩ => ⟨tree, ⟨same, rfl⟩, equal ▸ found⟩, ?_⟩
    rintro ⟨_, ⟨same, rfl⟩, again⟩
    exact ⟨same, Option.some.inj (again.symm.trans found)⟩

/-- What is read as a map is an object whose members can be read, those that a later one of the same
name replaces apart. -/
theorem map?_eq_some_iff (reads : ∀ field result, memberRead field = some result ↔ Reads field result) :
    (tree.map? .lastWins memberRead).map SortedMap.ofList = some items ↔ tree.IsMap Reads items := by
  rw [Option.map_eq_some_iff]
  have entries {members : List (Spelling × Tree)} {named : List (String × Tree)}
      {pairs : List (String × Result)} (read : namedMembers? members = some named)
      (all : (lastOfEach named).mapM (fun member => (memberRead member.2).map (member.1, ·)) =
        some pairs) (name : String) (result : Result) :
      (name, result) ∈ (SortedMap.ofList pairs).entries ↔
        ∃ field, LastNamed name field members ∧ Reads field result := by
    have distinct : (pairs.map Prod.fst).Nodup := names_of_mapM all ▸ nodup_lastOfEach named
    simp only [SortedMap.mem_entries_ofList distinct, mem_of_mapM_iff all,
      mem_lastOfEach_iff read, reads]
  constructor
  · rintro ⟨pairs, read, rfl⟩
    cases tree with
    | object members =>
      obtain ⟨kept, found, all⟩ := Option.bind_eq_some_iff.mp read
      obtain ⟨named, texts, rfl⟩ := Option.map_eq_some_iff.mp found
      refine .object (isSome_namedMembers?_iff.mp (texts ▸ rfl)) (fun name field last => ?_)
        fun name result => SortedMap.get?_eq_some_iff.trans (entries texts all name result)
      have each := isSome_mapM_iff.mp (Option.isSome_of_eq_some all) _
        ((mem_lastOfEach_iff texts).mpr last)
      obtain ⟨result, value⟩ := Option.isSome_iff_exists.mp (Option.isSome_map.symm.trans each)
      exact ⟨result, (reads field result).mp value⟩
    | _ => cases read
  · intro shown
    cases shown with
    | @object members fields each same =>
      obtain ⟨named, texts⟩ := Option.isSome_iff_exists.mp (isSome_namedMembers?_iff.mpr fields)
      have readable : ((lastOfEach named).mapM
          fun member => (memberRead member.2).map (member.1, ·)).isSome = true := by
        refine isSome_mapM_iff.mpr fun member inside => ?_
        obtain ⟨result, value⟩ := each member.1 member.2 ((mem_lastOfEach_iff texts).mp inside)
        rw [(reads member.2 result).mpr value]
        rfl
      obtain ⟨pairs, all⟩ := Option.isSome_iff_exists.mp readable
      refine ⟨pairs, ?_, SortedMap.ext_mem fun ⟨name, result⟩ => ?_⟩
      · simpa [map?, members?, texts] using all
      · rw [entries texts all, ← same, SortedMap.get?_eq_some_iff]

end Maps

end GridDiffusion.Json.Tree
