import GridDiffusion.Proofs.Grid.Coord
/-! Cells, places and addresses: each cell of a grid has one place and one address, and each of the
two leads back to the cell. -/
namespace GridDiffusion

/-- Whether a cell comes no later than another one when the cells are counted row by row. -/
def Coord.Precedes (first second : Coord) : Prop :=
  first.y < second.y ∨ first.y = second.y ∧ first.x ≤ second.x

namespace Grid
variable {grid : Grid} {coord other : Coord}

theorem ofSize_eq_ok_iff {size : UInt32} {base : Address} :
    ofSize size base = .ok grid ↔ grid.size = size ∧ grid.base = base := by
  unfold ofSize
  constructor
  · intro made
    split at made
    · split at made <;> cases made
      exact ⟨rfl, rfl⟩
    · cases made
  · intro parts
    obtain ⟨rfl, rfl⟩ := parts
    rw [dif_pos grid.size_pos, dif_pos ((lastPort_le_iff grid.size_pos grid.base).2 grid.ports_fit)]

theorem contains_iff : grid.contains coord = true ↔
    coord.x.toNat < grid.size.toNat ∧ coord.y.toNat < grid.size.toNat := by
  simp [contains, UInt32.lt_iff_toNat_lt]

/-- A grid whose ports fit has no more than 256 cells to a side. -/
theorem size_le (grid : Grid) : grid.size.toNat ≤ 256 := by
  have fit : grid.size.toNat * grid.size.toNat ≤ 65536 :=
    Nat.le_trans (Nat.le_add_left _ _) grid.ports_fit
  apply Nat.le_of_not_lt
  intro wide
  have more : 257 * 257 ≤ grid.size.toNat * grid.size.toNat := Nat.mul_le_mul wide wide
  omega

theorem place?_eq_some_iff {place : Fin grid.cellCount} :
    grid.place? coord = some place ↔
      grid.contains coord = true ∧
        place.val = coord.y.toNat * grid.size.toNat + coord.x.toNat := by
  rw [contains_iff]
  unfold place?
  split
  next onGrid =>
    simp only [Option.some.injEq, onGrid, and_self, true_and, Fin.ext_iff]
    exact eq_comm
  next offGrid => simp [offGrid]

theorem exists_place (onGrid : grid.contains coord = true) :
    ∃ place, grid.place? coord = some place :=
  ⟨⟨_, index_lt_cellCount (contains_iff.mp onGrid)⟩, place?_eq_some_iff.mpr ⟨onGrid, rfl⟩⟩

theorem place?_eq_none_iff : grid.place? coord = none ↔ grid.contains coord = false := by
  cases onGrid : grid.contains coord with
  | true =>
    obtain ⟨place, found⟩ := exists_place onGrid
    simp [found]
  | false =>
    rw [Option.eq_none_iff_forall_not_mem]
    simp [place?_eq_some_iff, onGrid]

theorem toNat_cellAt (place : Fin grid.cellCount) :
    (grid.cellAt place).x.toNat = place.val % grid.size.toNat ∧
      (grid.cellAt place).y.toNat = place.val / grid.size.toNat := by
  have narrow := grid.size_le
  have column := Nat.mod_lt place.val grid.size_pos
  have row : place.val / grid.size.toNat < grid.size.toNat :=
    Nat.div_lt_of_lt_mul place.isLt
  simp only [cellAt, Nat.toUInt32_eq, UInt32.toNat_ofNat']
  constructor <;> rw [Nat.mod_eq_of_lt (by omega)]

theorem place?_cellAt (place : Fin grid.cellCount) : grid.place? (grid.cellAt place) = some place := by
  obtain ⟨column, row⟩ := toNat_cellAt place
  rw [place?_eq_some_iff, contains_iff, column, row]
  refine ⟨⟨Nat.mod_lt _ grid.size_pos, Nat.div_lt_of_lt_mul place.isLt⟩, ?_⟩
  rw [Nat.mul_comm, Nat.div_add_mod]

theorem contains_cellAt (place : Fin grid.cellCount) : grid.contains (grid.cellAt place) = true :=
  (place?_eq_some_iff.mp (grid.place?_cellAt place)).1

theorem cellAt_of_place? {place : Fin grid.cellCount} (found : grid.place? coord = some place) :
    grid.cellAt place = coord := by
  obtain ⟨onGrid, value⟩ := place?_eq_some_iff.mp found
  obtain ⟨column, row⟩ := toNat_cellAt place
  obtain ⟨left, -⟩ := contains_iff.mp onGrid
  have rest : (coord.y.toNat * grid.size.toNat + coord.x.toNat) % grid.size.toNat =
      coord.x.toNat := by
    rw [Nat.mul_comm, Nat.mul_add_mod, Nat.mod_eq_of_lt left]
  have whole : (coord.y.toNat * grid.size.toNat + coord.x.toNat) / grid.size.toNat =
      coord.y.toNat := by
    rw [Nat.mul_comm, Nat.mul_add_div grid.size_pos, Nat.div_eq_of_lt left, Nat.add_zero]
  rw [value, rest] at column
  rw [value, whole] at row
  exact Coord.ext_toNat column row

theorem mem_cells_iff : coord ∈ grid.cells.toList ↔ grid.contains coord = true := by
  rw [Vector.mem_toList_iff, cells, Vector.mem_ofFn]
  constructor
  · rintro ⟨place, rfl⟩
    exact contains_cellAt place
  · intro onGrid
    obtain ⟨place, found⟩ := exists_place onGrid
    exact ⟨place, cellAt_of_place? found⟩

theorem precedes_cellAt {first second : Fin grid.cellCount} (before : first ≤ second) :
    (grid.cellAt first).Precedes (grid.cellAt second) := by
  obtain ⟨firstColumn, firstRow⟩ := toNat_cellAt first
  obtain ⟨secondColumn, secondRow⟩ := toNat_cellAt second
  have rows : first.val / grid.size.toNat ≤ second.val / grid.size.toNat :=
    Nat.div_le_div_right before
  rcases Nat.lt_or_eq_of_le rows with above | level
  · exact .inl (UInt32.lt_iff_toNat_lt.2 (by omega))
  · refine .inr ⟨UInt32.toNat_inj.mp (by omega), UInt32.le_iff_toNat_le.mpr ?_⟩
    have firstWhole := Nat.div_add_mod first.val grid.size.toNat
    have secondWhole := Nat.div_add_mod second.val grid.size.toNat
    rw [level] at firstWhole
    omega

theorem toNat_index (onGrid : grid.contains coord = true) :
    (coord.y * grid.size + coord.x).toNat = coord.y.toNat * grid.size.toNat + coord.x.toNat ∧
      grid.base.port.toNat + (coord.y.toNat * grid.size.toNat + coord.x.toNat) < 65536 := by
  have inside : coord.y.toNat * grid.size.toNat + coord.x.toNat <
      grid.size.toNat * grid.size.toNat := index_lt_cellCount (contains_iff.mp onGrid)
  have fits : grid.base.port.toNat + grid.size.toNat * grid.size.toNat ≤ 65536 := grid.ports_fit
  refine ⟨?_, by omega⟩
  rw [UInt32.toNat_add, UInt32.toNat_mul, Nat.mod_eq_of_lt, Nat.mod_eq_of_lt]
  · omega
  · rw [Nat.mod_eq_of_lt] <;> omega

theorem indexOf_eq_ok_iff {index : UInt32} : grid.indexOf coord = .ok index ↔
    grid.contains coord = true ∧
      index.toNat = coord.y.toNat * grid.size.toNat + coord.x.toNat := by
  unfold indexOf
  split
  next onGrid =>
    rw [Except.ok.injEq, ← UInt32.toNat_inj, (toNat_index onGrid).1, and_iff_right onGrid]
    exact eq_comm
  next offGrid => simp [offGrid]

theorem coordOf?_eq_some_iff {index : UInt32} : grid.coordOf? index = some coord ↔
    grid.contains coord = true ∧
      index.toNat = coord.y.toNat * grid.size.toNat + coord.x.toNat := by
  unfold coordOf?
  dsimp only
  constructor
  · intro found
    obtain ⟨onGrid, same⟩ := Option.ite_none_right_eq_some.mp found
    obtain rfl := Option.some.inj same
    refine ⟨onGrid, ?_⟩
    rw [UInt32.toNat_div, UInt32.toNat_mod, Nat.mul_comm, Nat.div_add_mod]
  · intro placed
    obtain ⟨onGrid, value⟩ := placed
    have left := (contains_iff.mp onGrid).1
    have cell : (⟨index % grid.size, index / grid.size⟩ : Coord) = coord := by
      apply Coord.ext_toNat
      · rw [UInt32.toNat_mod, value, Nat.mul_comm, Nat.mul_add_mod, Nat.mod_eq_of_lt left]
      · rw [UInt32.toNat_div, value, Nat.mul_comm, Nat.mul_add_div grid.size_pos,
          Nat.div_eq_of_lt left, Nat.add_zero]
    rw [cell, if_pos onGrid]

theorem addressOf_eq_ok_iff {address : Address} : grid.addressOf coord = .ok address ↔
    grid.contains coord = true ∧
      address = { grid.base with
        port := grid.base.port + (coord.y * grid.size + coord.x).toUInt16 } := by
  unfold addressOf indexOf
  split
  next onGrid => simp [Except.map, onGrid, eq_comm]
  next offGrid => simp [Except.map, offGrid]

/-- The port of a cell lies as far above the base port as its place is from the first one. -/
theorem toNat_port {address : Address} (found : grid.addressOf coord = .ok address) :
    address.port.toNat =
      grid.base.port.toNat + (coord.y.toNat * grid.size.toNat + coord.x.toNat) := by
  obtain ⟨onGrid, rfl⟩ := addressOf_eq_ok_iff.mp found
  obtain ⟨index, fits⟩ := toNat_index onGrid
  simp only [UInt16.toNat_add, UInt32.toNat_toUInt16, index]
  omega

theorem coordAt?_eq_some_iff {address : Address} : grid.coordAt? address = some coord ↔
    address.host = grid.base.host ∧
      ∃ own, grid.addressOf coord = .ok own ∧ own.port = address.port := by
  have distance (above : grid.base.port ≤ address.port) :
      (address.port - grid.base.port).toUInt32.toNat =
        address.port.toNat - grid.base.port.toNat := by
    rw [UInt16.toNat_toUInt32, UInt16.toNat_sub_of_le _ _ above]
  unfold coordAt?
  rw [Option.ite_none_right_eq_some, coordOf?_eq_some_iff]
  constructor
  · intro placed
    obtain ⟨⟨host, above⟩, onGrid, index⟩ := placed
    have own := addressOf_eq_ok_iff.mpr ⟨onGrid, rfl⟩
    refine ⟨host, _, own, UInt16.toNat_inj.mp ?_⟩
    rw [distance above] at index
    rw [toNat_port own]
    have below := UInt16.le_iff_toNat_le.mp above
    omega
  · intro placed
    obtain ⟨host, own, found, same⟩ := placed
    have port := toNat_port found
    rw [same] at port
    have above : grid.base.port ≤ address.port := UInt16.le_iff_toNat_le.mpr (by omega)
    refine ⟨⟨host, above⟩, (addressOf_eq_ok_iff.mp found).1, ?_⟩
    rw [distance above, port, Nat.add_sub_cancel_left]

theorem contains_of_coordAt? {address : Address} (found : grid.coordAt? address = some coord) :
    grid.contains coord = true := by
  obtain ⟨-, _, own, -⟩ := coordAt?_eq_some_iff.mp found
  exact (addressOf_eq_ok_iff.mp own).1

theorem coordAt?_addressOf {address : Address} (found : grid.addressOf coord = .ok address) :
    grid.coordAt? address = some coord := by
  obtain ⟨-, same⟩ := addressOf_eq_ok_iff.mp found
  exact coordAt?_eq_some_iff.mpr ⟨same ▸ rfl, address, found, rfl⟩

/-- In the grid's own zone the cell at an address is the one that has this address. -/
theorem coordAt?_eq_some_iff_of_zone {address : Address} (zone : address.zone = grid.base.zone) :
    grid.coordAt? address = some coord ↔ grid.addressOf coord = .ok address := by
  constructor
  · intro found
    obtain ⟨host, own, placed, same⟩ := coordAt?_eq_some_iff.mp found
    obtain ⟨-, rfl⟩ := addressOf_eq_ok_iff.mp placed
    have parts : address = ⟨grid.base.host, address.port, grid.base.zone⟩ := by rw [← host, ← zone]
    rw [parts, ← same]
    exact placed
  · exact coordAt?_addressOf

theorem addressOf_injective {address : Address} (first : grid.addressOf coord = .ok address)
    (second : grid.addressOf other = .ok address) : coord = other :=
  Option.some.inj ((coordAt?_addressOf first).symm.trans (coordAt?_addressOf second))

/-- Four cells from port 9000 on, the smallest grid where every cell has three neighbors. -/
def fourCells : Grid where
  size := 2
  base := ⟨.loopback, 9000, 0⟩
  size_pos := by decide
  ports_fit := by decide

end Grid
end GridDiffusion
