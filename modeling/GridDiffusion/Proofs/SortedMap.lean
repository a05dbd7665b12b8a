import Mathlib.Data.List.Sort
import GridDiffusion.SortedMap
/-! Looking keys up in sorted maps: what a lookup finds is what the entries say, and each operation
is known by what it does to every lookup. -/
namespace GridDiffusion.SortedMap
universe u v w
variable {Key : Type u} {Value : Type v} {Result : Type w} [Ord Key]

@[simp] theorem get?_empty (key : Key) : (empty : SortedMap Key Value).get? key = none := rfl

theorem mem_insertEntry_self (key : Key) (value : Value) (entries : List (Key × Value)) :
    (key, value) ∈ insertEntry key value entries := by
  induction entries with
  | nil => simp [insertEntry]
  | cons head rest ih => unfold insertEntry; split <;> simp [ih]

variable [Std.LawfulEqOrd Key]

theorem mem_insertEntry_of_ne {key : Key} {value : Value} {entry : Key × Value}
    {entries : List (Key × Value)} (member : entry ∈ entries) (apart : entry.1 ≠ key) :
    entry ∈ insertEntry key value entries := by
  induction entries with
  | nil => cases member
  | cons head rest ih =>
    unfold insertEntry
    split
    · exact List.mem_cons_of_mem _ member
    next same =>
      have equal : key = head.1 := Std.LawfulEqCmp.eq_of_compare same
      rcases List.mem_cons.mp member with here | inside
      · exact absurd (here ▸ equal.symm) apart
      · exact List.mem_cons_of_mem _ inside
    · rcases List.mem_cons.mp member with here | inside
      · exact here ▸ List.mem_cons_self
      · exact List.mem_cons_of_mem _ (ih inside)

theorem nodup_keys (map : SortedMap Key Value) : (map.entries.map Prod.fst).Nodup := by
  refine List.pairwise_map.mpr (map.sorted.imp fun below equal => ?_)
  rw [Std.compare_eq_iff_eq.mpr equal] at below
  cases below

variable [Std.TransOrd Key]

/-- No key stands twice, so an entry is its key's value. -/
theorem find?_eq_some_of_mem {entries : List (Key × Value)} {key : Key} {value : Value}
    (sorted : entries.Pairwise fun earlier later : Key × Value => compare earlier.1 later.1 = .lt)
    (member : (key, value) ∈ entries) :
    entries.find? (fun entry => compare key entry.1 == .eq) = some (key, value) := by
  induction entries with
  | nil => cases member
  | cons head rest ih =>
    obtain ⟨below, tail⟩ := List.pairwise_cons.mp sorted
    rcases List.mem_cons.mp member with same | inside
    · subst same
      exact List.find?_cons_of_pos (by simp)
    · have after : compare head.1 key = .lt := below _ inside
      have apart : compare key head.1 = .gt := Std.OrientedCmp.gt_of_lt after
      rw [List.find?_cons_of_neg (by simp [apart])]
      exact ih tail inside

theorem get?_eq_some_iff {map : SortedMap Key Value} {key : Key} {value : Value} :
    map.get? key = some value ↔ (key, value) ∈ map.entries := by
  constructor
  · intro found
    obtain ⟨⟨other, held⟩, selected, rfl⟩ := Option.map_eq_some_iff.mp found
    have matched := List.find?_some selected
    have same : key = other := Std.LawfulEqCmp.eq_of_compare (beq_iff_eq.1 matched)
    subst same
    exact List.mem_of_find?_eq_some selected
  · intro member
    simp [get?, find?_eq_some_of_mem map.sorted member]

theorem get?_insert (map : SortedMap Key Value) (key other : Key) (value : Value) [DecidableEq Key] :
    (map.insert key value).get? other = if other = key then some value else map.get? other := by
  split
  next same =>
    subst same
    exact get?_eq_some_iff.mpr (mem_insertEntry_self ..)
  next apart =>
    ext held
    simp only [get?_eq_some_iff]
    constructor
    · intro member
      rcases mem_insertEntry member with same | kept
      · exact absurd (congrArg Prod.fst same) apart
      · exact kept
    · intro member
      exact mem_insertEntry_of_ne member apart

theorem get?_filterMap (map : SortedMap Key Value) (change : Key → Value → Option Result)
    (key : Key) : (map.filterMap change).get? key = (map.get? key).bind (change key) := by
  ext result
  simp only [get?_eq_some_iff, filterMap, List.mem_filterMap, Option.map_eq_some_iff,
    Prod.mk.injEq, Option.bind_eq_some_iff]
  constructor
  · intro kept
    obtain ⟨⟨other, value⟩, member, changed, made, rfl, rfl⟩ := kept
    exact ⟨value, member, made⟩
  · intro mapped
    obtain ⟨value, member, made⟩ := mapped
    exact ⟨(key, value), member, result, made, rfl, rfl⟩

theorem mem_foldl_insert_of_notMem {pairs : List (Key × Value)} {map : SortedMap Key Value}
    {entry : Key × Value} (member : entry ∈ map.entries) (fresh : entry.1 ∉ pairs.map Prod.fst) :
    entry ∈ (pairs.foldl (fun map pair => map.insert pair.1 pair.2) map).entries := by
  induction pairs generalizing map with
  | nil => exact member
  | cons pair rest ih =>
    simp only [List.map_cons, List.mem_cons, not_or] at fresh
    exact ih (mem_insertEntry_of_ne member fresh.1) fresh.2

theorem mem_of_mem_foldl_insert {pairs : List (Key × Value)} {map : SortedMap Key Value}
    {entry : Key × Value}
    (member : entry ∈ (pairs.foldl (fun map pair => map.insert pair.1 pair.2) map).entries) :
    entry ∈ map.entries ∨ entry ∈ pairs := by
  induction pairs generalizing map with
  | nil => exact .inl member
  | cons pair rest ih =>
    rcases ih member with earlier | later
    · rcases mem_insertEntry earlier with same | kept
      · exact .inr (same ▸ List.mem_cons_self)
      · exact .inl kept
    · exact .inr (List.mem_cons_of_mem _ later)

theorem mem_entries_ofList {pairs : List (Key × Value)} {entry : Key × Value}
    (distinct : (pairs.map Prod.fst).Nodup) : entry ∈ (ofList pairs).entries ↔ entry ∈ pairs := by
  have all (map : SortedMap Key Value) (pairs : List (Key × Value))
      (distinct : (pairs.map Prod.fst).Nodup) (member : entry ∈ pairs) :
      entry ∈ (pairs.foldl (fun map pair => map.insert pair.1 pair.2) map).entries := by
    induction pairs generalizing map with
    | nil => cases member
    | cons pair rest ih =>
      obtain ⟨fresh, others⟩ := List.nodup_cons.1 distinct
      rcases List.mem_cons.mp member with same | inside
      · subst same
        have placed : entry ∈ (map.insert entry.1 entry.2).entries := mem_insertEntry_self ..
        rw [List.foldl_cons]
        exact mem_foldl_insert_of_notMem placed fresh
      · exact ih _ others inside
  constructor
  · intro member
    rcases mem_of_mem_foldl_insert member with absent | found
    · cases absent
    · exact found
  · exact all empty pairs distinct

theorem perm_entries_ofList {pairs : List (Key × Value)} (distinct : (pairs.map Prod.fst).Nodup) :
    (ofList pairs).entries.Perm pairs :=
  (List.perm_ext_iff_of_nodup (ofList pairs).nodup_keys.of_map distinct.of_map).mpr fun _ =>
    mem_entries_ofList distinct

theorem ext_mem {left right : SortedMap Key Value}
    (same : ∀ entry, entry ∈ left.entries ↔ entry ∈ right.entries) : left = right := by
  let Below (earlier later : Key × Value) : Prop := compare earlier.1 later.1 = .lt
  have irrefl : Std.Irrefl Below := ⟨fun entry below => by simp [Below] at below⟩
  have antisymm : Std.Antisymm Below := ⟨fun one other below above =>
    absurd (Std.TransCmp.lt_trans below above) (irrefl.irrefl one)⟩
  exact ext (List.Pairwise.eq_of_mem_iff left.sorted right.sorted same)

theorem ext_get? {left right : SortedMap Key Value}
    (same : ∀ key, left.get? key = right.get? key) : left = right := by
  apply ext_mem
  intro entry
  rw [← get?_eq_some_iff, ← get?_eq_some_iff, same]

theorem entries_of_only {map : SortedMap Key Value} {key : Key}
    (only : ∀ other, other ≠ key → map.get? other = none) :
    map.entries = ((map.get? key).map (key, ·)).toList := by
  cases found : map.get? key with
  | none =>
    apply List.eq_nil_iff_forall_not_mem.mpr
    intro entry member
    have held := get?_eq_some_iff.mpr member
    by_cases same : entry.1 = key
    · rw [same, found] at held
      cases held
    · rw [only _ same] at held
      cases held
  | some value =>
    suffices single : map = ⟨[(key, value)], List.pairwise_singleton ..⟩ from congrArg entries single
    apply ext_mem
    intro entry
    rw [List.mem_singleton]
    constructor
    · intro member
      have held := get?_eq_some_iff.mpr member
      by_cases same : entry.1 = key
      · rw [same, found] at held
        exact Prod.ext same (Option.some.inj held).symm
      · rw [only _ same] at held
        cases held
    · rintro rfl
      exact get?_eq_some_iff.mp found

theorem ofList_entries (map : SortedMap Key Value) : ofList map.entries = map :=
  ext_mem fun _ => mem_entries_ofList map.nodup_keys

end GridDiffusion.SortedMap
