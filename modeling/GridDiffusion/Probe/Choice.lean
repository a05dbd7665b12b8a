import GridDiffusion.Grid.Basic
import GridDiffusion.Node.Error
import GridDiffusion.Number.Share
/-! Random cells. A random source is any choice at all among the places that it is given; what is
picked is on the grid, and victims are distinct, whatever the source does. -/
namespace GridDiffusion

/-- A source of random choices among numbered places. -/
structure RandomSource where
  /-- A place at each turn. Turns may repeat a place. -/
  draw (turn : Nat) {count : Nat} (positive : 0 < count) : Fin count
  /-- Distinct places in any order: as many as are asked for, or all of them. -/
  sample (amount count : Nat) : List (Fin count)
  sample_nodup (amount count : Nat) : (sample amount count).Nodup
  length_sample (amount count : Nat) : (sample amount count).length = min amount count

/-- The source that goes through the places in order. -/
def RandomSource.inOrder : RandomSource where
  draw turn _ positive := ⟨turn % _, Nat.mod_lt _ positive⟩
  sample amount count := (List.finRange count).take amount
  sample_nodup _ count := (List.nodup_finRange count).sublist (List.take_sublist ..)
  length_sample _ _ := by simp

namespace Grid

theorem cellCount_pos (grid : Grid) : 0 < grid.cellCount :=
  Nat.mul_pos grid.size_pos grid.size_pos

/-- Cells for new items, each drawn on its own: a cell may be drawn more than once. -/
def drawCells (grid : Grid) (source : RandomSource) (count : Nat) : List Coord :=
  (List.range count).map fun turn => grid.cellAt (source.draw turn grid.cellCount_pos)

/-- Distinct cells that make up a share of the grid, rounded down, column by column. -/
def pickVictims (grid : Grid) (source : RandomSource) (fraction : Binary64) :
    Except NodeError (List Coord) :=
  if fraction.isShare then
    .ok (Coord.sort
      ((source.sample (fraction.shareOf grid.cellCount) grid.cellCount).map grid.cellAt))
  else .error (.invalidFraction fraction)

end Grid
end GridDiffusion
