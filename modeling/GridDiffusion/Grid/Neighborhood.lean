import GridDiffusion.Grid.Basic
/-! The Moore neighborhood of a cell: the cells of the grid that one king's step reaches. -/
namespace GridDiffusion

def mooreSteps : List (Int64 × Int64) :=
  [(-1, -1), (0, -1), (1, -1), (-1, 0), (1, 0), (-1, 1), (0, 1), (1, 1)]

structure Neighbor where
  id : String
  address : Address
  coord : Coord
deriving DecidableEq

namespace Grid

/-- The cells one step away from a position, which may itself lie off the grid. -/
def mooreNeighbors (grid : Grid) (coord : Coord) : List Coord :=
  (mooreSteps.filterMap fun step => coord.offset? step.1 step.2).filter grid.contains

def neighborsOf (grid : Grid) (coord : Coord) : Except TopologyError (List Neighbor) := do
  let _ ← grid.indexOf coord
  (grid.mooreNeighbors coord).mapM fun cell => do
    pure { id := cell.peerId, address := ← grid.addressOf cell, coord := cell }

/-- How many positions of one axis lie within one step of a cell on it. -/
def span (grid : Grid) (position : UInt32) : Nat :=
  min (position.toNat + 1) (grid.size.toNat - 1) - (position.toNat - 1) + 1

/-- How many neighbors a cell has by its position alone; none off the grid. -/
def expectedNeighborCount? (grid : Grid) (coord : Coord) : Option Nat :=
  if grid.contains coord then some (grid.span coord.x * grid.span coord.y - 1) else none

end Grid
end GridDiffusion
