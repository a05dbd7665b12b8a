import Mathlib.Algebra.Group.Nat.Defs
import GridDiffusion.Proofs.Grid.Place
/-! The address mapping: which grids are accepted, and how the cells of an accepted grid correspond
to indices, to addresses and to positions in the list of all cells. -/
namespace GridDiffusion

/-- Rows of equal length, one after the other, are counted by quotient and remainder. -/
theorem flatMap_range_map_range {α : Type} (entry : Nat → Nat → α) (rows : Nat) {columns : Nat}
    (nonempty : 0 < columns) :
    (List.range rows).flatMap (fun row => (List.range columns).map fun column => entry column row) =
      (List.range (rows * columns)).map fun place => entry (place % columns) (place / columns) := by
  induction rows with
  | zero => simp
  | succ rows ih =>
    have last : (List.range columns).map (fun column => entry column rows) =
        (List.range columns).map fun column =>
          entry ((rows * columns + column) % columns) ((rows * columns + column) / columns) := by
      refine List.map_congr_left fun column within => ?_
      have left := List.mem_range.mp within
      rw [Nat.mul_comm, Nat.mul_add_mod, Nat.mod_eq_of_lt left, Nat.mul_add_div nonempty,
        Nat.div_eq_of_lt left, Nat.add_zero]
    rw [List.range_succ, List.flatMap_append, ih, List.flatMap_singleton, last, Nat.succ_mul,
      List.range_add, List.map_append, List.map_map]
    rfl

namespace Grid
variable {grid : Grid} {coord : Coord} {size : UInt32} {base : Address}

def cellOf (grid : Grid) (place : Nat) : Coord :=
  ⟨(place % grid.size.toNat).toUInt32, (place / grid.size.toNat).toUInt32⟩

theorem coords_eq_map_range (grid : Grid) :
    grid.coords = (List.range grid.cellCount).map grid.cellOf :=
  flatMap_range_map_range (fun x y => (⟨x.toUInt32, y.toUInt32⟩ : Coord)) grid.size.toNat grid.size_pos

theorem cellOf_spec {place : Nat} (within : place < grid.cellCount) :
    grid.contains (grid.cellOf place) = true ∧
      (grid.cellOf place).y.toNat * grid.size.toNat + (grid.cellOf place).x.toNat = place := by
  obtain ⟨onGrid, value⟩ := place?_eq_some_iff.mp (grid.place?_cellAt ⟨place, within⟩)
  exact ⟨onGrid, value.symm⟩

theorem coordOf?_eq_cellOf (index : UInt32) :
    grid.coordOf? index =
      if index.toNat < grid.cellCount then some (grid.cellOf index.toNat) else none := by
  split
  next within =>
    obtain ⟨onGrid, value⟩ := cellOf_spec within
    exact coordOf?_eq_some_iff.mpr ⟨onGrid, value.symm⟩
  next beyond =>
    rw [Option.eq_none_iff_forall_ne_some]
    intro coord found
    obtain ⟨onGrid, value⟩ := coordOf?_eq_some_iff.mp found
    exact beyond (value ▸ index_lt_cellCount (Grid.contains_iff.mp onGrid))

theorem getElem?_coords (place : Nat) :
    grid.coords[place]? = if place < grid.cellCount then some (grid.cellOf place) else none := by
  rw [coords_eq_map_range, List.getElem?_map]
  split
  next within => rw [List.getElem?_range within, Option.map_some]
  next beyond =>
    rw [List.getElem?_eq_none (by rw [List.length_range]; omega), Option.map_none]

theorem mem_coords_iff : coord ∈ grid.coords ↔ grid.contains coord = true := by
  rw [coords_eq_map_range, List.mem_map]
  constructor
  · intro listed
    obtain ⟨place, within, rfl⟩ := listed
    exact (cellOf_spec (List.mem_range.mp within)).1
  · intro onGrid
    obtain ⟨place, found⟩ := exists_place onGrid
    exact ⟨place, List.mem_range.mpr place.isLt, cellAt_of_place? found⟩

theorem exists_addressOf_iff :
    (∃ address, grid.addressOf coord = .ok address) ↔ grid.contains coord = true := by
  constructor
  · intro found
    obtain ⟨address, found⟩ := found
    exact (addressOf_eq_ok_iff.mp found).1
  · intro onGrid
    exact ⟨_, addressOf_eq_ok_iff.mpr ⟨onGrid, rfl⟩⟩

/-- One cell's address comes before another's: on the same host, at a lower port. -/
def ListensBefore (grid : Grid) (first second : Coord) : Prop :=
  ∃ own other, grid.addressOf first = .ok own ∧ grid.addressOf second = .ok other ∧
    own.host = other.host ∧ own.zone = other.zone ∧ own.port < other.port

theorem pairwise_listensBefore (grid : Grid) : grid.coords.Pairwise grid.ListensBefore := by
  rw [coords_eq_map_range, List.pairwise_map]
  refine List.pairwise_lt_range.imp_of_mem fun {first second} before after lower => ?_
  obtain ⟨onGrid, place⟩ := cellOf_spec (List.mem_range.mp before)
  obtain ⟨otherOnGrid, otherPlace⟩ := cellOf_spec (List.mem_range.mp after)
  obtain ⟨own, found⟩ := exists_addressOf_iff.mpr onGrid
  obtain ⟨other, otherFound⟩ := exists_addressOf_iff.mpr otherOnGrid
  have port := toNat_port found
  have otherPort := toNat_port otherFound
  obtain ⟨-, rfl⟩ := addressOf_eq_ok_iff.mp found
  obtain ⟨-, rfl⟩ := addressOf_eq_ok_iff.mp otherFound
  refine ⟨_, _, found, otherFound, rfl, rfl, UInt16.lt_iff_toNat_lt.mpr ?_⟩
  rw [port, otherPort, place, otherPlace]
  exact Nat.add_lt_add_left lower _

theorem nodup_coords (grid : Grid) : grid.coords.Nodup := by
  refine grid.pairwise_listensBefore.imp fun {first second} before same => ?_
  obtain ⟨own, other, found, otherFound, -, -, lower⟩ := before
  rw [same, otherFound] at found
  exact absurd (Except.ok.inj found ▸ lower) (UInt16.lt_irrefl _)

/-- The words on the way from a cell to its port, none of which wraps or is cut short. -/
structure Lossless (grid : Grid) (coord : Coord) : Prop where
  product : (coord.y * grid.size).toNat = coord.y.toNat * grid.size.toNat
  index : (coord.y * grid.size + coord.x).toNat = coord.y.toNat * grid.size.toNat + coord.x.toNat
  narrowed : (coord.y * grid.size + coord.x).toUInt16.toNat =
    coord.y.toNat * grid.size.toNat + coord.x.toNat
  port : (grid.base.port + (coord.y * grid.size + coord.x).toUInt16).toNat =
    grid.base.port.toNat + (coord.y.toNat * grid.size.toNat + coord.x.toNat)

theorem lossless_of_contains (onGrid : grid.contains coord = true) : grid.Lossless coord := by
  obtain ⟨index, fits⟩ := toNat_index onGrid
  refine ⟨?_, index, ?_, ?_⟩
  · rw [UInt32.toNat_mul, Nat.mod_eq_of_lt (by omega)]
  · rw [UInt32.toNat_toUInt16, index, Nat.mod_eq_of_lt (by omega)]
  · exact toNat_port (addressOf_eq_ok_iff.mpr ⟨onGrid, rfl⟩)

/-- Cells, indices, addresses and the list of all cells answer to each other. -/
structure IsExact (grid : Grid) : Prop where
  onGrid : ∀ coord, grid.contains coord = true ↔ coord.x < grid.size ∧ coord.y < grid.size
  indexed : ∀ coord, (∃ index, grid.indexOf coord = .ok index) ↔ grid.contains coord = true
  addressed : ∀ coord, (∃ address, grid.addressOf coord = .ok address) ↔ grid.contains coord = true
  lossless : ∀ coord, grid.contains coord = true → grid.Lossless coord
  /-- The index of a cell counts the cells row by row. -/
  index : ∀ coord index, grid.indexOf coord = .ok index →
    index.toNat = coord.y.toNat * grid.size.toNat + coord.x.toNat
  /-- An address differs from the base in the port only, which lies the index above the base port.
  -/
  address : ∀ coord address, grid.addressOf coord = .ok address →
    address.host = grid.base.host ∧ address.zone = grid.base.zone ∧
      address.port.toNat = grid.base.port.toNat + (coord.y.toNat * grid.size.toNat + coord.x.toNat)
  coordOf : ∀ index coord, grid.coordOf? index = some coord ↔
    grid.contains coord = true ∧ grid.indexOf coord = .ok index
  coordAt : ∀ address coord, grid.coordAt? address = some coord ↔
    address.host = grid.base.host ∧ ∃ own, grid.addressOf coord = .ok own ∧ own.port = address.port
  listed : ∀ coord, grid.coords.count coord = if grid.contains coord then 1 else 0
  length : grid.coords.length = grid.cellCount
  position : ∀ index : UInt32, grid.coords[index.toNat]? = grid.coordOf? index
  increasing : grid.coords.Pairwise grid.ListensBefore

theorem isExact (grid : Grid) : grid.IsExact where
  onGrid coord := by rw [contains, Bool.and_eq_true, decide_eq_true_iff, decide_eq_true_iff]
  indexed coord := by
    constructor
    · intro found
      obtain ⟨index, found⟩ := found
      exact (indexOf_eq_ok_iff.mp found).1
    · intro onGrid
      exact ⟨_, indexOf_eq_ok_iff.mpr ⟨onGrid, (toNat_index onGrid).1⟩⟩
  addressed _ := exists_addressOf_iff
  lossless _ := lossless_of_contains
  index _ _ found := (indexOf_eq_ok_iff.mp found).2
  address _ _ found := by
    have port := toNat_port found
    obtain ⟨-, rfl⟩ := addressOf_eq_ok_iff.mp found
    exact ⟨rfl, rfl, port⟩
  coordOf _ _ := by
    rw [coordOf?_eq_some_iff, indexOf_eq_ok_iff, ← and_assoc, and_self]
  coordAt _ _ := coordAt?_eq_some_iff
  listed coord := by simp only [grid.nodup_coords.count, mem_coords_iff]
  length := by rw [coords_eq_map_range, List.length_map, List.length_range]
  position index := by rw [getElem?_coords, coordOf?_eq_cellOf]
  increasing := grid.pairwise_listensBefore

theorem exists_ofSize_iff : (∃ grid, ofSize size base = .ok grid) ↔
    1 ≤ size.toNat ∧ base.port.toNat + size.toNat ^ 2 - 1 ≤ 65535 := by
  have ports : UInt16.size = 65536 := rfl
  rw [Nat.pow_two]
  constructor
  · intro accepted
    obtain ⟨grid, made⟩ := accepted
    obtain ⟨rfl, rfl⟩ := ofSize_eq_ok_iff.mp made
    have fits := grid.ports_fit
    exact ⟨grid.size_pos, by omega⟩
  · intro parts
    obtain ⟨nonempty, last⟩ := parts
    exact ⟨⟨size, base, nonempty, by omega⟩, ofSize_eq_ok_iff.mpr ⟨rfl, rfl⟩⟩

/-- The words that tell whether a grid's last port exists do not wrap, whatever the size and the
base. A grid is accepted exactly if it has a cell and its last port exists, and in an accepted grid
cells, indices, addresses and the list of all cells answer to each other. -/
theorem addressing_exact (size : UInt32) (base : Address) :
    ((size.toUInt64 * size.toUInt64).toNat = size.toNat ^ 2 ∧
      (base.port.toUInt64 + size.toUInt64 * size.toUInt64).toNat =
        base.port.toNat + size.toNat ^ 2 ∧
      (1 ≤ size.toNat → (lastPort size base).toNat = base.port.toNat + size.toNat ^ 2 - 1)) ∧
    ((∃ grid, ofSize size base = .ok grid) ↔
      1 ≤ size.toNat ∧ base.port.toNat + size.toNat ^ 2 - 1 ≤ 65535) ∧
    ∀ grid, ofSize size base = .ok grid → grid.size = size ∧ grid.base = base ∧ grid.IsExact := by
  refine ⟨?_, exists_ofSize_iff, fun grid made => ?_⟩
  · rw [Nat.pow_two]
    exact ⟨toNat_cells size, toNat_portsEnd size base, fun nonempty => toNat_lastPort nonempty base⟩
  · obtain ⟨same, sameBase⟩ := ofSize_eq_ok_iff.mp made
    exact ⟨same, sameBase, grid.isExact⟩

/-- The last cell of this grid listens at the greatest port there is. -/
theorem addressing_exact_greatestPort :
    ∃ grid, ofSize 16 ⟨.loopback, 65280, 0⟩ = .ok grid ∧ grid.IsExact ∧
      grid.addressOf ⟨15, 15⟩ = .ok ⟨.loopback, 65535, 0⟩ ∧
      grid.coordAt? ⟨.loopback, 65279, 0⟩ = none := by
  obtain ⟨-, accepted, mapped⟩ := addressing_exact 16 ⟨.loopback, 65280, 0⟩
  obtain ⟨grid, made⟩ := accepted.mpr (by decide)
  obtain ⟨size, base, isExact⟩ := mapped grid made
  have onGrid : grid.contains ⟨15, 15⟩ = true := by rw [contains, size]; rfl
  refine ⟨grid, made, isExact, addressOf_eq_ok_iff.mpr ⟨onGrid, by rw [size, base]; rfl⟩, ?_⟩
  rw [coordAt?, base]
  rfl

end Grid
end GridDiffusion
