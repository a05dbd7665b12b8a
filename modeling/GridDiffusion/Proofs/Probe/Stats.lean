import Mathlib.Algebra.BigOperators.Group.List.Lemmas
import Mathlib.Algebra.Group.Action.Defs
import Mathlib.Algebra.GroupWithZero.Nat
import Mathlib.Algebra.Order.BigOperators.Group.List
import Mathlib.Algebra.Order.Group.Nat
import Mathlib.Data.List.Dedup
import Mathlib.Data.List.Perm.Subperm
import Mathlib.Data.List.ProdSigma
import GridDiffusion.Probe.Survey
import GridDiffusion.Proofs.Node.Log
/-! The numbers of a survey: what is counted node by node agrees with what is counted item by item,
as long as every status is that of a node. -/
namespace GridDiffusion

theorem SortedMap.mem_keys_iff {Key Value : Type} [Ord Key] [Std.LawfulEqOrd Key] [Std.TransOrd Key]
    {map : SortedMap Key Value} {key : Key} : key ∈ map.keys ↔ map.contains key = true := by
  rw [contains, Option.isSome_iff_exists, keys, List.mem_map]
  constructor
  · rintro ⟨⟨_, value⟩, member, rfl⟩
    exact ⟨value, get?_eq_some_iff.mpr member⟩
  · rintro ⟨value, found⟩
    exact ⟨(key, value), get?_eq_some_iff.mp found, rfl⟩

namespace NodeStatus
variable {status : NodeStatus}

/-- A status that some node has, after whatever has happened to it since its start. -/
def IsReported (status : NodeStatus) : Prop :=
  ∃ config start log, Node.ofConfig config = .ok start ∧ (start.replay log).status = status

/-- A status that counts the items that it lists, and lists none of a dead node. -/
structure IsSound (status : NodeStatus) : Prop where
  count : status.itemCount = status.items.size
  alive {id : String} : status.holds id = true → status.alive = true

theorem IsSound.length_keys (sound : status.IsSound) :
    status.items.keys.length = status.itemCount :=
  (List.length_map _).trans sound.count.symm

theorem holds_iff_mem_keys {id : String} : status.holds id = true ↔ id ∈ status.items.keys :=
  SortedMap.mem_keys_iff.symm

theorem IsReported.isSound (reported : status.IsReported) : status.IsSound := by
  obtain ⟨config, start, log, started, rfl⟩ := reported
  have valid : config.validate = .ok () := by
    cases checked : config.validate with
    | ok => rfl
    | error cause =>
      rw [Node.ofConfig, checked] at started
      cases started
  obtain ⟨same, made, -, -, empty, -⟩ := Node.ofConfig_of_validate valid
  obtain rfl := Except.ok.inj (made.symm.trans started)
  have settled : (same.replay log).EmptyIfDead := Node.EmptyIfDead.replay (fun _ => empty) log
  generalize same.replay log = node at settled
  constructor
  case count => exact (List.length_map _).symm
  case alive =>
    intro id holds
    by_contra dead
    have store : node.store = .empty := settled (Bool.eq_false_iff.mpr dead)
    rw [NodeStatus.holds, Node.status, store] at holds
    cases holds

theorem isReported_of_cell {grid : Grid} {cell : Coord} (onGrid : grid.contains cell = true)
    (log : List NodeEvent) : ((Node.fresh grid cell).replay log).status.IsReported := by
  have started := Node.ofConfig_forCell onGrid
  cases made : NodeConfig.forCell grid cell with
  | error cause =>
    rw [made] at started
    cases started
  | ok config =>
    rw [made] at started
    exact ⟨config, _, log, started, rfl⟩

end NodeStatus

namespace Survey
variable {survey : Survey} {id : String}

theorem get?_foldl_tally (ids : List String) (spread : SortedMap String Nat) (id : String) :
    (ids.foldl tally spread).get? id =
      if id ∈ ids then some ((spread.get? id).getD 0 + ids.count id) else spread.get? id := by
  induction ids generalizing spread with
  | nil => rfl
  | cons first rest ih =>
    rw [List.foldl_cons, ih, tally, SortedMap.get?_insert]
    by_cases same : id = first
    · subst same
      by_cases again : id ∈ rest
      · simp [again]
        omega
      · simp [again, List.count_eq_zero_of_not_mem again]
    · simp [same, List.count_cons_of_ne (Ne.symm same)]

theorem perm_entries_foldl_tally (ids : List String) :
    (ids.foldl tally .empty).entries.Perm (ids.dedup.map fun id => (id, ids.count id)) := by
  have distinct : (ids.dedup.map fun id => (id, ids.count id)).Nodup :=
    (List.nodup_dedup ids).map fun _ _ same => congrArg Prod.fst same
  refine (List.perm_ext_iff_of_nodup (SortedMap.nodup_keys _).of_map distinct).mpr fun entry => ?_
  obtain ⟨id, count⟩ := entry
  rw [← SortedMap.get?_eq_some_iff, get?_foldl_tally]
  by_cases there : id ∈ ids
  · simp [there, eq_comm]
  · simp [there]

def mentions (survey : Survey) : List String := survey.aliveStatuses.flatMap (·.items.keys)

def stocked (survey : Survey) : List Coord :=
  (survey.statuses.entries.filter fun entry => entry.2.alive && 0 < entry.2.itemCount).map (·.1)

/-- A survey of nodes: what it says of cells of its grid is what nodes say of themselves. -/
structure IsTruthful (survey : Survey) : Prop where
  onGrid {coord : Coord} {status : NodeStatus} :
    survey.status? coord = some status → coord.x < survey.size ∧ coord.y < survey.size
  reported {coord : Coord} {status : NodeStatus} :
    survey.status? coord = some status → status.IsReported

theorem IsTruthful.isSound (truthful : survey.IsTruthful) {entry : Coord × NodeStatus}
    (member : entry ∈ survey.statuses.entries) : entry.2.IsSound :=
  (truthful.reported (SortedMap.get?_eq_some_iff.mpr member)).isSound

theorem IsTruthful.isSound_of_aliveStatuses (truthful : survey.IsTruthful) {status : NodeStatus}
    (member : status ∈ survey.aliveStatuses) : status.IsSound := by
  obtain ⟨entry, inside, rfl⟩ := List.mem_map.mp (List.mem_filter.mp member).1
  exact truthful.isSound inside

/-- A survey of a grid is truthful where each answer is that of the cell's node, at whatever time.
-/
theorem isTruthful_of_cells {grid : Grid} (size : survey.size = grid.size)
    (answers : ∀ entry ∈ survey.statuses.entries, grid.contains entry.1 = true ∧
      ∃ log, ((Node.fresh grid entry.1).replay log).status = entry.2) : survey.IsTruthful := by
  constructor
  case onGrid =>
    intro coord status said
    rw [size]
    exact Grid.contains_iff.mp (answers _ (SortedMap.get?_eq_some_iff.mp said)).1
  case reported =>
    intro coord status said
    obtain ⟨onGrid, log, same⟩ : grid.contains coord = true ∧
        ∃ log, ((Node.fresh grid coord).replay log).status = status :=
      answers (coord, status) (SortedMap.get?_eq_some_iff.mp said)
    exact same ▸ NodeStatus.isReported_of_cell onGrid log

theorem count_flatMap_keys (statuses : List NodeStatus) (id : String) :
    (statuses.flatMap (·.items.keys)).count id = statuses.countP (·.holds id) := by
  induction statuses with
  | nil => rfl
  | cons status rest ih =>
    have once : status.items.keys.count id = if status.holds id then 1 else 0 := by
      have distinct : status.items.keys.Nodup := status.items.nodup_keys
      rw [distinct.count]
      simp only [NodeStatus.holds_iff_mem_keys]
    rw [List.flatMap_cons, List.count_append, once, ih, List.countP_cons, Nat.add_comm]

theorem IsTruthful.count_mentions (truthful : survey.IsTruthful) (id : String) :
    survey.mentions.count id = (survey.holders id).length := by
  calc survey.mentions.count id
    _ = survey.statuses.values.countP fun status => status.holds id && status.alive := by
      rw [mentions, count_flatMap_keys, aliveStatuses, List.countP_filter]
    _ = survey.statuses.entries.countP fun entry => entry.2.holds id := by
      rw [SortedMap.values, List.countP_map]
      refine List.countP_congr fun entry member => ?_
      have alive : entry.2.holds id = true → entry.2.alive = true := (truthful.isSound member).alive
      simpa using alive
    _ = (survey.holders id).length := by
      rw [holders, List.length_map, List.countP_eq_length_filter]

theorem totalItems_eq (survey : Survey) :
    survey.stats.totalItems = (survey.aliveStatuses.map (·.itemCount)).sum := by
  rw [List.sum_eq_foldl, List.foldl_map]
  rfl

theorem IsTruthful.length_mentions (truthful : survey.IsTruthful) :
    survey.mentions.length = survey.stats.totalItems := by
  have counts : survey.aliveStatuses.map (fun status => status.items.keys.length) =
      survey.aliveStatuses.map (·.itemCount) :=
    List.map_congr_left fun _ member => (truthful.isSound_of_aliveStatuses member).length_keys
  rw [mentions, List.length_flatMap, counts, totalItems_eq]

theorem nodup_holders (survey : Survey) (id : String) : (survey.holders id).Nodup :=
  survey.statuses.nodup_keys.sublist (List.filter_sublist.map _)

theorem nodup_stocked (survey : Survey) : survey.stocked.Nodup :=
  survey.statuses.nodup_keys.sublist (List.filter_sublist.map _)

theorem mem_holders_iff {coord : Coord} : coord ∈ survey.holders id ↔
    ∃ status, (coord, status) ∈ survey.statuses.entries ∧ status.holds id = true := by
  simp [holders]

theorem IsTruthful.mem_stocked_iff (truthful : survey.IsTruthful) {coord : Coord} :
    coord ∈ survey.stocked ↔ ∃ id, coord ∈ survey.holders id := by
  simp only [mem_holders_iff, stocked, List.mem_map, List.mem_filter, Bool.and_eq_true,
    decide_eq_true_iff]
  constructor
  · rintro ⟨⟨coord, status⟩, ⟨member, -, stocked⟩, rfl⟩
    have size := (truthful.isSound member).length_keys
    obtain ⟨id, listed⟩ := List.exists_mem_of_length_pos (size ▸ stocked)
    exact ⟨id, status, member, NodeStatus.holds_iff_mem_keys.mpr listed⟩
  · rintro ⟨id, status, member, holds⟩
    have sound := truthful.isSound member
    have listed := List.length_pos_of_mem (NodeStatus.holds_iff_mem_keys.mp holds)
    exact ⟨(coord, status), ⟨member, sound.alive holds, sound.length_keys ▸ listed⟩, rfl⟩

theorem length_stocked (survey : Survey) : survey.stocked.length = survey.stats.nodesWithItems := by
  have counted : survey.stats.nodesWithItems = ((survey.statuses.values.filter (·.alive)).filter
      fun status => 0 < status.itemCount).length := rfl
  rw [counted, List.filter_filter, SortedMap.values, List.filter_map, List.length_map, stocked,
    List.length_map]
  simp only [Function.comp_def, Bool.and_comm]

/-- There are as many ids as the node with the most items has, or more. -/
theorem IsTruthful.itemCount_le (truthful : survey.IsTruthful) {status : NodeStatus}
    (member : status ∈ survey.aliveStatuses) : status.itemCount ≤ survey.stats.spread.size := by
  have distinct : status.items.keys.Nodup := status.items.nodup_keys
  have mentioned : status.items.keys ⊆ survey.mentions.dedup := fun _ listed =>
    List.mem_dedup.mpr (List.mem_flatMap.mpr ⟨status, member, listed⟩)
  have size : survey.stats.spread.size = survey.mentions.dedup.length :=
    (perm_entries_foldl_tally survey.mentions).length_eq.trans (List.length_map _)
  calc status.itemCount
    _ = status.items.keys.length := (truthful.isSound_of_aliveStatuses member).length_keys.symm
    _ ≤ survey.mentions.dedup.length := (List.subperm_of_subset distinct mentioned).length_le
    _ = survey.stats.spread.size := size.symm

theorem IsTruthful.responding_le (truthful : survey.IsTruthful) :
    survey.responding ≤ survey.cellCount := by
  let places := List.range survey.size.toNat ×ˢ List.range survey.size.toNat
  have distinct : (survey.statuses.keys.map fun coord => (coord.x.toNat, coord.y.toNat)).Nodup :=
    List.Nodup.map (fun _ _ same => Coord.ext_toNat (congrArg Prod.fst same) (congrArg Prod.snd same))
      survey.statuses.nodup_keys
  have inside : (survey.statuses.keys.map fun coord => (coord.x.toNat, coord.y.toNat)) ⊆ places := by
    intro place member
    obtain ⟨coord, listed, rfl⟩ := List.mem_map.mp member
    obtain ⟨entry, answered, rfl⟩ := List.mem_map.mp listed
    obtain ⟨column, row⟩ := truthful.onGrid (SortedMap.get?_eq_some_iff.mpr answered)
    exact List.mem_product.mpr ⟨List.mem_range.mpr column, List.mem_range.mpr row⟩
  have most := (List.subperm_of_subset distinct inside).length_le
  rw [List.length_map, SortedMap.keys, List.length_map, List.length_product, List.length_range] at most
  exact most

/-- The numbers of a survey agree with what it says of single items, and with one another. -/
structure Balances (survey : Survey) : Prop where
  /-- An item is entered where it has a holder, with the number of its holders. -/
  spread (id : String) : survey.stats.spread.get? id =
    if survey.holders id = [] then none else some (survey.holders id).length
  holders (id : String) : (survey.holders id).Nodup
  totalItems : survey.stats.totalItems = survey.stats.spread.values.sum
  nodesWithItems : ∃ cells : List Coord, cells.Nodup ∧
    (∀ cell, cell ∈ cells ↔ ∃ id, cell ∈ survey.holders id) ∧
      cells.length = survey.stats.nodesWithItems
  nodesWithItems_le : survey.stats.nodesWithItems ≤ survey.stats.alive
  /-- The most items of one node are no more than there are ids, and no less than the mean. -/
  maxItems {most : Nat} : survey.stats.maxItems = some most → most ≤ survey.stats.spread.size ∧
    0 < survey.stats.alive ∧ survey.stats.totalItems ≤ most * survey.stats.alive
  alive : survey.stats.alive = survey.alive ∧ survey.alive ≤ survey.responding
  responding : survey.responding ≤ survey.stats.cells

/-- Where every status is that of a node and lies on the grid, the numbers of a survey agree. -/
theorem balances_of_isTruthful (truthful : survey.IsTruthful) : survey.Balances := by
  have tallied := perm_entries_foldl_tally survey.mentions
  have entered : survey.stats.spread = survey.mentions.foldl tally .empty := rfl
  constructor
  case spread =>
    intro id
    have count := truthful.count_mentions id
    rw [entered, get?_foldl_tally]
    by_cases nobody : survey.holders id = []
    · have absent : id ∉ survey.mentions := by
        rw [← List.count_eq_zero, count, nobody]
        rfl
      rw [if_neg absent, if_pos nobody]
      rfl
    · have there : id ∈ survey.mentions := by
        rw [← List.count_pos_iff, count]
        exact List.length_pos_iff.mpr nobody
      rw [if_pos there, if_neg nobody, count, SortedMap.get?_empty, Option.getD_none, Nat.zero_add]
  case holders => exact survey.nodup_holders
  case totalItems =>
    rw [entered, ← truthful.length_mentions, ← List.sum_map_count_dedup_eq_length]
    exact ((tallied.map Prod.snd).sum_eq.trans (by rw [List.map_map]; rfl)).symm
  case nodesWithItems =>
    exact ⟨survey.stocked, survey.nodup_stocked, fun _ => truthful.mem_stocked_iff,
      survey.length_stocked⟩
  case nodesWithItems_le => exact List.length_filter_le ..
  case maxItems =>
    intro most found
    obtain ⟨listed, greatest⟩ := List.max?_eq_some_iff.mp found
    obtain ⟨status, member, rfl⟩ := List.mem_map.mp listed
    refine ⟨truthful.itemCount_le member, List.length_pos_of_mem member, ?_⟩
    have bound := List.sum_le_card_nsmul _ _ greatest
    rwa [← totalItems_eq, List.length_map, smul_eq_mul, Nat.mul_comm] at bound
  case alive =>
    refine ⟨rfl, ?_⟩
    have answered : survey.responding = survey.statuses.values.length := (List.length_map _).symm
    exact answered ▸ List.length_filter_le ..
  case responding => exact truthful.responding_le

/-- A survey of a grid of four cells, of which one is silent and one has failed. -/
def threeAnswers : Survey where
  size := 2
  statuses := .ofList
    [(⟨1, 1⟩, ((Node.fresh .fourCells ⟨1, 1⟩).replay [.inject "a" "" 2, .tick]).status),
      (⟨0, 0⟩, ((Node.fresh .fourCells ⟨0, 0⟩).replay [.inject "a" "" 3, .inject "b" "" 1]).status),
      (⟨1, 0⟩, ((Node.fresh .fourCells ⟨1, 0⟩).replay [.inject "c" "" 3, .kill]).status)]

theorem balances_of_isTruthful_threeAnswers : threeAnswers.IsTruthful ∧ threeAnswers.Balances ∧
    threeAnswers.stats.totalItems = 3 ∧ threeAnswers.holders "a" = [⟨0, 0⟩, ⟨1, 1⟩] ∧
      threeAnswers.holders "c" = [] := by
  have truthful : threeAnswers.IsTruthful := by
    have size : threeAnswers.size = Grid.fourCells.size := rfl
    refine isTruthful_of_cells size fun entry member => ?_
    have answered := (SortedMap.mem_entries_ofList (by decide)).mp member
    simp only [List.mem_cons, List.not_mem_nil, or_false] at answered
    rcases answered with rfl | rfl | rfl <;> exact ⟨by decide, _, rfl⟩
  exact ⟨truthful, balances_of_isTruthful truthful, by decide +kernel, by decide +kernel,
    by decide +kernel⟩

end Survey
end GridDiffusion
