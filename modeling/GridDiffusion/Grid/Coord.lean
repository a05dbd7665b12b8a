/-! Positions on a grid: the column `x` and the row `y`, counted from the top left corner. -/
namespace GridDiffusion

structure Coord where
  x : UInt32
  y : UInt32
deriving DecidableEq, Inhabited, Repr

namespace Coord

/-- Positions are ordered by column, then by row. -/
instance : Ord Coord := ⟨compareLex (compareOn x) (compareOn y)⟩

instance : Std.TransOrd Coord :=
  inferInstanceAs (Std.TransCmp (compareLex (compareOn Coord.x) (compareOn Coord.y)))

instance : Std.LawfulEqOrd Coord where
  eq_of_compare {left right} same := by
    have axes : compare left.x right.x = .eq ∧ compare left.y right.y = .eq :=
      Ordering.then_eq_eq.1 same
    cases left; cases right
    exact Coord.mk.injEq .. ▸ ⟨Std.LawfulEqCmp.eq_of_compare axes.1,
      Std.LawfulEqCmp.eq_of_compare axes.2⟩

def sort (coords : List Coord) : List Coord :=
  coords.mergeSort fun left right => (compare left right).isLE

def chebyshev (left right : Coord) : Nat :=
  max (max left.x.toNat right.x.toNat - min left.x.toNat right.x.toNat)
    (max left.y.toNat right.y.toNat - min left.y.toNat right.y.toNat)

/-- A signed sum on one axis, wrapping at 64 bits, where it is again a position on the axis. -/
def shift? (position : UInt32) (step : Int64) : Option UInt32 :=
  let sum := Int64.ofNat position.toNat + step
  if 0 ≤ sum ∧ sum ≤ Int64.ofNat (UInt32.size - 1) then some sum.toInt.toNat.toUInt32 else none

/-- The position that lies a signed step away on each axis, where there is one. -/
def offset? (coord : Coord) (dx dy : Int64) : Option Coord :=
  match shift? coord.x dx, shift? coord.y dy with
  | some x, some y => some ⟨x, y⟩
  | _, _ => none

def areNeighbors (left right : Coord) : Bool := left ≠ right && left.chebyshev right = 1

/-- The peer id of the node at a cell, unless it is given another. -/
def peerId (coord : Coord) : String := "node_" ++ coord.x.toNat.repr ++ "_" ++ coord.y.toNat.repr

def text (coord : Coord) : String :=
  "(" ++ coord.x.toNat.repr ++ ", " ++ coord.y.toNat.repr ++ ")"

end Coord
end GridDiffusion
