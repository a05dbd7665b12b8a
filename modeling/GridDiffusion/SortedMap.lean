/-! Finite maps as entry lists in strictly increasing key order. Equal maps are equal lists, and
reading a map in key order is reading its entries. -/
namespace GridDiffusion
universe u v w

/-- Entries in strictly increasing key order, so no key occurs twice. -/
structure SortedMap (Key : Type u) (Value : Type v) [Ord Key] where
  entries : List (Key × Value)
  sorted : entries.Pairwise fun earlier later => compare earlier.1 later.1 = .lt
deriving DecidableEq

namespace SortedMap
variable {Key : Type u} {Value : Type v} [Ord Key]

@[ext] theorem ext {left right : SortedMap Key Value} (same : left.entries = right.entries) :
    left = right := by
  cases left; cases right; cases same; rfl

def empty : SortedMap Key Value := ⟨[], .nil⟩

instance : Inhabited (SortedMap Key Value) := ⟨empty⟩

def size (map : SortedMap Key Value) : Nat := map.entries.length

def isEmpty (map : SortedMap Key Value) : Bool := map.entries.isEmpty

def keys (map : SortedMap Key Value) : List Key := map.entries.map (·.1)

def values (map : SortedMap Key Value) : List Value := map.entries.map (·.2)

/-- The value of the first entry whose key compares equal. -/
def get? (map : SortedMap Key Value) (key : Key) : Option Value :=
  (map.entries.find? fun entry => compare key entry.1 == .eq).map (·.2)

def contains (map : SortedMap Key Value) (key : Key) : Bool := (map.get? key).isSome

/-- Put an entry at its place in an ordered list, over an entry of the same key. -/
def insertEntry (key : Key) (value : Value) : List (Key × Value) → List (Key × Value)
  | [] => [(key, value)]
  | head :: rest =>
    match compare key head.1 with
    | .lt => (key, value) :: head :: rest
    | .eq => (key, value) :: rest
    | .gt => head :: insertEntry key value rest

theorem mem_insertEntry {key : Key} {value : Value} {entry : Key × Value}
    {entries : List (Key × Value)} (member : entry ∈ insertEntry key value entries) :
    entry = (key, value) ∨ entry ∈ entries := by
  induction entries with
  | nil => simpa [insertEntry] using member
  | cons head rest ih =>
    unfold insertEntry at member
    split at member
    · simpa using member
    · rcases List.mem_cons.1 member with same | inside
      · exact .inl same
      · exact .inr (List.mem_cons_of_mem _ inside)
    · rcases List.mem_cons.1 member with same | inside
      · exact .inr (same ▸ List.mem_cons_self)
      · exact (ih inside).imp_right (List.mem_cons_of_mem _)

theorem insertEntry_sorted [Std.TransOrd Key] [Std.LawfulEqOrd Key] (key : Key) (value : Value)
    (entries : List (Key × Value))
    (sorted : entries.Pairwise fun earlier later => compare earlier.1 later.1 = .lt) :
    (insertEntry key value entries).Pairwise
      fun earlier later => compare earlier.1 later.1 = .lt := by
  induction entries with
  | nil => simp [insertEntry]
  | cons head rest ih =>
    obtain ⟨below, tail⟩ := List.pairwise_cons.1 sorted
    unfold insertEntry
    split
    next before =>
      refine List.pairwise_cons.2 ⟨fun entry member => ?_, sorted⟩
      rcases List.mem_cons.1 member with same | inside
      · exact same ▸ before
      · exact Std.TransCmp.lt_trans before (below entry inside)
    next same =>
      have equal : key = head.1 := Std.LawfulEqCmp.eq_of_compare same
      exact List.pairwise_cons.2 ⟨fun entry inside => equal ▸ below entry inside, tail⟩
    next after =>
      refine List.pairwise_cons.2 ⟨fun entry member => ?_, ih tail⟩
      rcases mem_insertEntry member with same | inside
      · exact same ▸ Std.OrientedCmp.lt_of_gt after
      · exact below entry inside

/-- Give `key` a value, replacing the value it had. -/
def insert [Std.TransOrd Key] [Std.LawfulEqOrd Key] (map : SortedMap Key Value) (key : Key)
    (value : Value) : SortedMap Key Value :=
  ⟨insertEntry key value map.entries, insertEntry_sorted key value map.entries map.sorted⟩

/-- Insert the pairs from left to right: of a repeated key the last value stays. -/
def ofList [Std.TransOrd Key] [Std.LawfulEqOrd Key] (pairs : List (Key × Value)) :
    SortedMap Key Value :=
  pairs.foldl (fun map pair => map.insert pair.1 pair.2) empty

def filterMap {Result : Type w} (map : SortedMap Key Value) (change : Key → Value → Option Result) :
    SortedMap Key Result where
  entries := map.entries.filterMap fun entry => (change entry.1 entry.2).map (entry.1, ·)
  sorted := map.sorted.filterMap _ fun left right below leftImage leftFound rightImage
      rightFound => by
    obtain ⟨_, _, rfl⟩ := Option.map_eq_some_iff.1 leftFound
    obtain ⟨_, _, rfl⟩ := Option.map_eq_some_iff.1 rightFound
    exact below

def map {Result : Type w} (source : SortedMap Key Value) (change : Value → Result) :
    SortedMap Key Result where
  entries := source.entries.map fun entry => (entry.1, change entry.2)
  sorted := List.pairwise_map.2 source.sorted

end SortedMap
end GridDiffusion
