import GridDiffusion.Proofs.Grid.Place
/-! Ways around on a grid: whole numbers for the axes of a cell, steps along one axis, and the cells
that neighbors have in common. -/
namespace GridDiffusion

namespace Coord
variable {left right : Coord}

theorem ne_of_axes (apart : left.x.toNat ≠ right.x.toNat ∨ left.y.toNat ≠ right.y.toNat) :
    left ≠ right := by
  rintro rfl
  exact apart.elim (fun column => column rfl) fun row => row rfl

theorem areNeighbors_iff_gaps : left.areNeighbors right = true ↔
    gap left.x.toNat right.x.toNat ≤ 1 ∧ gap left.y.toNat right.y.toNat ≤ 1 ∧
      (left.x.toNat ≠ right.x.toNat ∨ left.y.toNat ≠ right.y.toNat) := by
  have same : left ≠ right ↔ left.x.toNat ≠ right.x.toNat ∨ left.y.toNat ≠ right.y.toNat := by
    refine ⟨fun apart => ?_, ne_of_axes⟩
    by_contra axes
    simp only [not_or, not_not] at axes
    exact apart (ext_toNat axes.1 axes.2)
  rw [areNeighbors_iff, chebyshev_eq_one_iff, same]

theorem ne_of_areNeighbors (step : left.areNeighbors right = true) : left ≠ right :=
  ne_of_axes (areNeighbors_iff_gaps.mp step).2.2

theorem gap_self (position : Nat) : gap position position = 0 := gap_eq_zero_iff.mpr rfl

theorem gap_middle_le {position low : Nat} (lowest : low ≤ position) (highest : position ≤ low + 2) :
    gap position (low + 1) ≤ 1 := by
  unfold gap
  omega

/-- On an axis with two positions each has another one beside it. -/
theorem exists_beside {position size : Nat} (inside : position < size) (wide : 2 ≤ size) :
    ∃ beside < size, gap position beside = 1 := by
  unfold gap
  rcases Nat.lt_or_ge (position + 1) size with before | last
  · exact ⟨position + 1, before, by omega⟩
  · exact ⟨position - 1, by omega, by omega⟩

theorem exists_toward {position goal size steps : Nat} (inside : position < size)
    (goalInside : goal < size) (apart : gap position goal = steps + 1) :
    ∃ next < size, gap position next = 1 ∧ gap next goal = steps := by
  obtain ⟨closer, step, between⟩ := gap_toward position goal
  refine ⟨toward position goal, by omega, ?_, ?_⟩
  · unfold gap at *
    omega
  · rw [gap_comm, closer, gap_comm, apart, Nat.add_sub_cancel]

end Coord

namespace Grid
variable {grid : Grid} {left right : Coord}

theorem exists_cell {x y : Nat} (column : x < grid.size.toNat) (row : y < grid.size.toNat) :
    ∃ cell, grid.contains cell = true ∧ cell.x.toNat = x ∧ cell.y.toNat = y := by
  have position {place : Nat} (inside : place < grid.size.toNat) :
      (UInt32.ofNat place).toNat = place :=
    UInt32.toNat_ofNat_of_lt' (Nat.lt_trans inside grid.size.toNat_lt)
  refine ⟨⟨.ofNat x, .ofNat y⟩, contains_iff.mpr ⟨?_, ?_⟩, position column, position row⟩
  · exact (position column).symm ▸ column
  · exact (position row).symm ▸ row

/-- Two neighboring cells have two neighbors in common. -/
theorem exists_common (leftOnGrid : grid.contains left = true)
    (rightOnGrid : grid.contains right = true) (step : left.areNeighbors right = true) :
    ∃ first second, first ≠ second ∧
      (first ∈ grid.mooreNeighbors left ∧ first ∈ grid.mooreNeighbors right) ∧
      (second ∈ grid.mooreNeighbors left ∧ second ∈ grid.mooreNeighbors right) := by
  obtain ⟨leftColumn, leftRow⟩ := contains_iff.mp leftOnGrid
  obtain ⟨rightColumn, rightRow⟩ := contains_iff.mp rightOnGrid
  obtain ⟨columns, rows, apart⟩ := Coord.areNeighbors_iff_gaps.mp step
  simp only [mem_mooreNeighbors, Coord.areNeighbors_iff_gaps]
  by_cases column : left.x.toNat = right.x.toNat
  · obtain ⟨beside, inside, next⟩ := Coord.exists_beside leftColumn (by omega)
    obtain ⟨first, firstOnGrid, firstX, firstY⟩ := exists_cell inside leftRow
    obtain ⟨second, secondOnGrid, secondX, secondY⟩ := exists_cell inside rightRow
    refine ⟨first, second, Coord.ne_of_axes (by omega), ?_⟩
    unfold Coord.gap at *
    grind
  · by_cases row : left.y.toNat = right.y.toNat
    · obtain ⟨beside, inside, next⟩ := Coord.exists_beside leftRow (by omega)
      obtain ⟨first, firstOnGrid, firstX, firstY⟩ := exists_cell leftColumn inside
      obtain ⟨second, secondOnGrid, secondX, secondY⟩ := exists_cell rightColumn inside
      refine ⟨first, second, Coord.ne_of_axes (by omega), ?_⟩
      unfold Coord.gap at *
      grind
    · obtain ⟨first, firstOnGrid, firstX, firstY⟩ := exists_cell leftColumn rightRow
      obtain ⟨second, secondOnGrid, secondX, secondY⟩ := exists_cell rightColumn leftRow
      refine ⟨first, second, Coord.ne_of_axes (by omega), ?_⟩
      unfold Coord.gap at *
      grind

end Grid
end GridDiffusion
