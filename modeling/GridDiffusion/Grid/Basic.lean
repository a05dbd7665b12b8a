import GridDiffusion.Grid.Coord
import GridDiffusion.Grid.Address
/-! A square grid of cells with one address each: the cell in row `y` and column `x` listens
`y * size + x` ports above the base address. -/
namespace GridDiffusion

inductive TopologyError
  /-- A grid has at least one cell. -/
  | emptyGrid
  /-- The last cell's port lies beyond the greatest one. -/
  | portOverflow (basePort : UInt16) (size : UInt32)
  | outOfBounds (coord : Coord) (size : UInt32)
deriving DecidableEq, Repr

def TopologyError.message : TopologyError → String
  | .emptyGrid => "grid size must be at least 1"
  | .portOverflow basePort size =>
    "grid of size " ++ size.toNat.repr ++ " starting at port " ++ basePort.toNat.repr ++
      " overflows the port range"
  | .outOfBounds coord size =>
    "coordinate " ++ coord.text ++ " is outside a grid of size " ++ size.toNat.repr

/-- A grid of at least one cell whose last port exists. -/
structure Grid where
  size : UInt32
  base : Address
  size_pos : 0 < size.toNat
  ports_fit : base.port.toNat + size.toNat * size.toNat ≤ UInt16.size
deriving DecidableEq

namespace Grid

/-- The port of the last cell, in words that are wide enough for every size and base. -/
def lastPort (size : UInt32) (base : Address) : UInt64 :=
  base.port.toUInt64 + size.toUInt64 * size.toUInt64 - 1

theorem toNat_cells (size : UInt32) :
    (size.toUInt64 * size.toUInt64).toNat = size.toNat * size.toNat := by
  have square : size.toNat * size.toNat ≤ 4294967295 * 4294967295 :=
    Nat.mul_le_mul (Nat.le_of_lt_succ size.toNat_lt) (Nat.le_of_lt_succ size.toNat_lt)
  rw [UInt64.toNat_mul, UInt32.toNat_toUInt64]
  omega

theorem toNat_portsEnd (size : UInt32) (base : Address) :
    (base.port.toUInt64 + size.toUInt64 * size.toUInt64).toNat =
      base.port.toNat + size.toNat * size.toNat := by
  have port := base.port.toNat_lt
  have square : size.toNat * size.toNat ≤ 4294967295 * 4294967295 :=
    Nat.mul_le_mul (Nat.le_of_lt_succ size.toNat_lt) (Nat.le_of_lt_succ size.toNat_lt)
  rw [UInt64.toNat_add, toNat_cells, UInt16.toNat_toUInt64]
  omega

theorem toNat_lastPort {size : UInt32} (nonempty : 0 < size.toNat) (base : Address) :
    (lastPort size base).toNat = base.port.toNat + size.toNat * size.toNat - 1 := by
  have cells : 0 < size.toNat * size.toNat := Nat.mul_pos nonempty nonempty
  have one : (1 : UInt64) ≤ base.port.toUInt64 + size.toUInt64 * size.toUInt64 := by
    rw [UInt64.le_iff_toNat_le, toNat_portsEnd]
    exact Nat.le_trans cells (Nat.le_add_left ..)
  rw [lastPort, UInt64.toNat_sub_of_le _ _ one, toNat_portsEnd]
  rfl

theorem lastPort_le_iff {size : UInt32} (nonempty : 0 < size.toNat) (base : Address) :
    lastPort size base ≤ 65535 ↔
      base.port.toNat + size.toNat * size.toNat ≤ UInt16.size := by
  have greatest : (65535 : UInt64).toNat = 65535 := rfl
  have ports : UInt16.size = 65536 := rfl
  rw [UInt64.le_iff_toNat_le, toNat_lastPort nonempty, greatest, ports]
  omega

/-- The grid of a size at a base address, if it has a cell and its last port exists. -/
def ofSize (size : UInt32) (base : Address) : Except TopologyError Grid :=
  if nonempty : 0 < size.toNat then
    if fits : lastPort size base ≤ 65535 then
      .ok ⟨size, base, nonempty, (lastPort_le_iff nonempty base).1 fits⟩
    else .error (.portOverflow base.port size)
  else .error .emptyGrid

def cellCount (grid : Grid) : Nat := grid.size.toNat * grid.size.toNat

def contains (grid : Grid) (coord : Coord) : Bool := coord.x < grid.size && coord.y < grid.size

def indexOf (grid : Grid) (coord : Coord) : Except TopologyError UInt32 :=
  if grid.contains coord then .ok (coord.y * grid.size + coord.x)
  else .error (.outOfBounds coord grid.size)

def coordOf? (grid : Grid) (index : UInt32) : Option Coord :=
  let coord : Coord := ⟨index % grid.size, index / grid.size⟩
  if grid.contains coord then some coord else none

def addressOf (grid : Grid) (coord : Coord) : Except TopologyError Address :=
  (grid.indexOf coord).map fun index =>
    { grid.base with port := grid.base.port + index.toUInt16 }

/-- The cell whose node listens at an address. Zones are not compared. -/
def coordAt? (grid : Grid) (address : Address) : Option Coord :=
  if address.host = grid.base.host ∧ grid.base.port ≤ address.port then
    grid.coordOf? (address.port - grid.base.port).toUInt32
  else none

def coords (grid : Grid) : List Coord :=
  (List.range grid.size.toNat).flatMap fun y =>
    (List.range grid.size.toNat).map fun x => ⟨x.toUInt32, y.toUInt32⟩

theorem index_lt_cellCount {grid : Grid} {coord : Coord}
    (onGrid : coord.x.toNat < grid.size.toNat ∧ coord.y.toNat < grid.size.toNat) :
    coord.y.toNat * grid.size.toNat + coord.x.toNat < grid.cellCount :=
  calc coord.y.toNat * grid.size.toNat + coord.x.toNat
    _ < coord.y.toNat * grid.size.toNat + grid.size.toNat := Nat.add_lt_add_left onGrid.1 _
    _ = (coord.y.toNat + 1) * grid.size.toNat := (Nat.succ_mul ..).symm
    _ ≤ grid.size.toNat * grid.size.toNat := Nat.mul_le_mul_right _ onGrid.2

def place? (grid : Grid) (coord : Coord) : Option (Fin grid.cellCount) :=
  if onGrid : coord.x.toNat < grid.size.toNat ∧ coord.y.toNat < grid.size.toNat then
    some ⟨coord.y.toNat * grid.size.toNat + coord.x.toNat, index_lt_cellCount onGrid⟩
  else none

def cellAt (grid : Grid) (place : Fin grid.cellCount) : Coord :=
  ⟨(place.val % grid.size.toNat).toUInt32, (place.val / grid.size.toNat).toUInt32⟩

def cells (grid : Grid) : Vector Coord grid.cellCount := .ofFn grid.cellAt

end Grid
end GridDiffusion
