import GridDiffusion.Grid.Neighborhood
import Mathlib.Data.List.Basic
/-! Steps and distances between cells: a signed step is exact, the neighbors of a cell are the cells
at distance one, and peer ids tell cells apart. -/
namespace GridDiffusion

theorem eq_of_toList_repr {first second : Nat} (same : first.repr.toList = second.repr.toList) :
    first = second := by
  rw [Nat.toList_repr, Nat.toList_repr] at same
  rw [← Nat.ofDigitChars_ten_toDigits (n := first), same, Nat.ofDigitChars_ten_toDigits]

namespace Coord

/-- A step on one axis is exact: no wrapped sum is taken for a position. -/
theorem shift?_eq_some_iff {position moved : UInt32} {step : Int64} :
    shift? position step = some moved ↔ (moved.toNat : Int) = position.toNat + step.toInt := by
  have bound := position.toNat_lt
  have movedBound := moved.toNat_lt
  have low := step.le_toInt
  have high := step.toInt_lt
  have start : (Int64.ofNat position.toNat).toInt = position.toNat :=
    Int64.toInt_ofNat_of_lt (by omega)
  have last : (Int64.ofNat (UInt32.size - 1)).toInt = 4294967295 := by decide
  have zero : (0 : Int64).toInt = 0 := rfl
  -- A sum past the greatest signed number wraps to a negative one.
  have wrapped : (Int64.ofNat position.toNat + step).toInt = position.toNat + step.toInt ∨
      (Int64.ofNat position.toNat + step).toInt < 0 ∧ 2 ^ 63 ≤ position.toNat + step.toInt := by
    rw [Int64.toInt_add, start, Int.bmod_def]
    split <;> omega
  simp only [shift?, Int64.le_iff_toInt_le, zero, last]
  generalize (Int64.ofNat position.toNat + step).toInt = sum at wrapped
  by_cases inside : 0 ≤ sum ∧ sum ≤ 4294967295
  · have exact : sum.toNat.toUInt32.toNat = sum.toNat := by
      rw [Nat.toUInt32_eq, UInt32.toNat_ofNat']
      omega
    rw [if_pos inside, Option.some.injEq, ← UInt32.toNat_inj, exact]
    omega
  · rw [if_neg inside]
    constructor
    · intro found
      cases found
    · intro same
      omega

theorem offset?_eq_some_iff {coord moved : Coord} {dx dy : Int64} :
    coord.offset? dx dy = some moved ↔
      (moved.x.toNat : Int) = coord.x.toNat + dx.toInt ∧
        (moved.y.toNat : Int) = coord.y.toNat + dy.toInt := by
  rw [← shift?_eq_some_iff, ← shift?_eq_some_iff, offset?]
  cases shift? coord.x dx <;> cases shift? coord.y dy <;> cases moved <;> simp

theorem toInt_add_of_shift? {position moved : UInt32} {step : Int64}
    (found : shift? position step = some moved) :
    (Int64.ofNat position.toNat + step).toInt = position.toNat + step.toInt := by
  have exact := shift?_eq_some_iff.mp found
  have start : (Int64.ofNat position.toNat).toInt = position.toNat :=
    Int64.toInt_ofNat_of_lt (Nat.lt_trans position.toNat_lt (by decide))
  have bound := moved.toNat_lt
  rw [Int64.toInt_add, start, ← exact, Int.bmod_def]
  split <;> omega

/-- The opposite step leads back. The least step is its own opposite, and leads nowhere. -/
theorem shift?_neg {position moved : UInt32} {step : Int64} :
    shift? position step = some moved ↔ shift? moved (-step) = some position := by
  have bound := position.toNat_lt
  have movedBound := moved.toNat_lt
  have low := step.le_toInt
  have high := step.toInt_lt
  rw [shift?_eq_some_iff, shift?_eq_some_iff, Int64.toInt_neg, Int.bmod_def]
  split <;> omega

/-- The position that lies at two integers, where both are positions on an axis. -/
def at? (x y : Int) : Option Coord :=
  if (0 ≤ x ∧ x ≤ 4294967295) ∧ 0 ≤ y ∧ y ≤ 4294967295 then
    some ⟨x.toNat.toUInt32, y.toNat.toUInt32⟩
  else none

theorem at?_eq_some_iff {x y : Int} {coord : Coord} :
    at? x y = some coord ↔ (coord.x.toNat : Int) = x ∧ (coord.y.toNat : Int) = y := by
  have same {axis : Int} {position : UInt32} (inside : 0 ≤ axis ∧ axis ≤ 4294967295) :
      axis.toNat.toUInt32 = position ↔ (position.toNat : Int) = axis := by
    have bound : axis.toNat < 2 ^ 32 := by omega
    rw [← UInt32.toNat_inj, Nat.toUInt32_eq, UInt32.toNat_ofNat_of_lt' bound]
    omega
  have boundX := coord.x.toNat_lt
  have boundY := coord.y.toNat_lt
  unfold at?
  split
  next inside =>
    obtain ⟨coordX, coordY⟩ := coord
    rw [Option.some.injEq, Coord.mk.injEq, same inside.1, same inside.2]
  next outside =>
    constructor
    · intro found
      cases found
    · rintro ⟨rfl, rfl⟩
      exact absurd ⟨⟨by omega, by omega⟩, by omega, by omega⟩ outside

/-- A step leads to where its two sums lie: it leads nowhere if a sum is no position or wraps at 64
bits, and the opposite step leads back. -/
theorem offset?_exact (coord : Coord) (dx dy : Int64) :
    coord.offset? dx dy = at? (coord.x.toNat + dx.toInt) (coord.y.toNat + dy.toInt) ∧
      ((Int64.ofNat coord.x.toNat + dx).toInt ≠ coord.x.toNat + dx.toInt ∨
          (Int64.ofNat coord.y.toNat + dy).toInt ≠ coord.y.toNat + dy.toInt →
        coord.offset? dx dy = none) ∧
      ∀ moved : Coord, coord.offset? dx dy = some moved ↔ moved.offset? (-dx) (-dy) = some coord := by
  refine ⟨?_, ?_, ?_⟩
  · exact Option.ext fun moved => by rw [offset?_eq_some_iff, at?_eq_some_iff]
  · intro wrapped
    rw [Option.eq_none_iff_forall_ne_some]
    intro moved found
    rw [offset?_eq_some_iff, ← shift?_eq_some_iff, ← shift?_eq_some_iff] at found
    obtain ⟨foundX, foundY⟩ := found
    exact wrapped.elim (· (toInt_add_of_shift? foundX)) (· (toInt_add_of_shift? foundY))
  · intro moved
    simp only [offset?_eq_some_iff, ← shift?_eq_some_iff]
    exact and_congr shift?_neg shift?_neg

/-- The greatest step from the second column wraps to the least number, and leads nowhere. -/
theorem offset?_exact_maxValue :
    ((Int64.ofNat 1 + Int64.maxValue).toInt = Int64.minValue.toInt ∧
        (Int64.ofNat 1 + Int64.maxValue).toInt ≠ 1 + Int64.maxValue.toInt) ∧
      (Coord.mk 1 0).offset? Int64.maxValue 0 = none :=
  ⟨by decide, (offset?_exact ⟨1, 0⟩ Int64.maxValue 0).2.1 (.inl (by decide))⟩

theorem ext_toNat {left right : Coord} (x : left.x.toNat = right.x.toNat)
    (y : left.y.toNat = right.y.toNat) : left = right := by
  cases left; cases right
  rw [Coord.mk.injEq]
  exact ⟨UInt32.toNat_inj.mp x, UInt32.toNat_inj.mp y⟩

/-- How far two positions on one axis lie apart. -/
def gap (left right : Nat) : Nat := max left right - min left right

theorem chebyshev_eq (left right : Coord) : left.chebyshev right =
    max (gap left.x.toNat right.x.toNat) (gap left.y.toNat right.y.toNat) := rfl

theorem gap_triangle (left middle right : Nat) :
    gap left right ≤ gap left middle + gap middle right := by
  unfold gap
  omega

theorem gap_comm (left right : Nat) : gap left right = gap right left := by
  unfold gap
  omega

theorem gap_eq_zero_iff {left right : Nat} : gap left right = 0 ↔ left = right := by
  unfold gap
  omega

theorem gap_le_one_iff {left right : Nat} :
    gap left right ≤ 1 ↔ (right : Int) = left + -1 ∨ (right : Int) = left + 0 ∨
      (right : Int) = left + 1 := by
  unfold gap
  omega

theorem chebyshev_comm (left right : Coord) : left.chebyshev right = right.chebyshev left := by
  rw [chebyshev_eq, chebyshev_eq, gap_comm, gap_comm left.y.toNat]

theorem chebyshev_eq_zero_iff {left right : Coord} : left.chebyshev right = 0 ↔ left = right := by
  rw [chebyshev_eq, Nat.max_eq_zero_iff, gap_eq_zero_iff, gap_eq_zero_iff]
  constructor
  · intro steps
    obtain ⟨x, y⟩ := steps
    exact ext_toNat x y
  · rintro rfl
    exact ⟨rfl, rfl⟩

theorem chebyshev_triangle (left middle right : Coord) :
    left.chebyshev right ≤ left.chebyshev middle + middle.chebyshev right := by
  have x := gap_triangle left.x.toNat middle.x.toNat right.x.toNat
  have y := gap_triangle left.y.toNat middle.y.toNat right.y.toNat
  rw [chebyshev_eq, chebyshev_eq, chebyshev_eq]
  exact Nat.max_le.2 ⟨Nat.le_trans x (Nat.add_le_add (Nat.le_max_left ..) (Nat.le_max_left ..)),
    Nat.le_trans y (Nat.add_le_add (Nat.le_max_right ..) (Nat.le_max_right ..))⟩

theorem areNeighbors_iff {left right : Coord} :
    left.areNeighbors right = true ↔ left.chebyshev right = 1 := by
  simp only [areNeighbors, Bool.and_eq_true, decide_eq_true_eq, ne_eq, and_iff_right_iff_imp]
  rintro near rfl
  rw [chebyshev_eq_zero_iff.mpr rfl] at near
  cases near

theorem areNeighbors_comm {left right : Coord} :
    left.areNeighbors right = true ↔ right.areNeighbors left = true := by
  rw [areNeighbors_iff, areNeighbors_iff, chebyshev_comm]

theorem chebyshev_le_succ (start : Coord) {near far : Coord} (step : near.areNeighbors far = true) :
    start.chebyshev far ≤ start.chebyshev near + 1 :=
  areNeighbors_iff.mp step ▸ chebyshev_triangle start near far

/-- Cells at distance one are apart by at most one on each axis, and are not the same. -/
theorem chebyshev_eq_one_iff {left right : Coord} : left.chebyshev right = 1 ↔
    gap left.x.toNat right.x.toNat ≤ 1 ∧ gap left.y.toNat right.y.toNat ≤ 1 ∧ left ≠ right := by
  have apart : ¬ left.chebyshev right = 0 ↔ ¬ left = right := not_congr chebyshev_eq_zero_iff
  rw [ne_eq, ← apart, chebyshev_eq, ← and_assoc, ← Nat.max_le]
  omega

/-- The eight steps of a king reach the cells at distance one. -/
theorem mem_mooreSteps_iff {coord moved : Coord} :
    (∃ step ∈ mooreSteps, coord.offset? step.1 step.2 = some moved) ↔
      coord.areNeighbors moved = true := by
  have minus : (-1 : Int64).toInt = -1 := rfl
  have zero : (0 : Int64).toInt = 0 := rfl
  have one : (1 : Int64).toInt = 1 := rfl
  have same : coord = moved ↔
      (moved.x.toNat : Int) = coord.x.toNat + 0 ∧ (moved.y.toNat : Int) = coord.y.toNat + 0 := by
    constructor
    · rintro rfl
      simp
    · intro steps
      obtain ⟨x, y⟩ := steps
      exact ext_toNat (by omega) (by omega)
  simp only [offset?_eq_some_iff, areNeighbors_iff, chebyshev_eq_one_iff, gap_le_one_iff, ne_eq,
    same, mooreSteps, List.mem_cons, List.not_mem_nil, or_false, exists_eq_or_imp, exists_eq_left,
    minus, zero, one]
  omega

/-- A king's step from one position of an axis towards another. -/
def toward (position goal : Nat) : Nat :=
  if position < goal then position + 1 else if goal < position then position - 1 else position

theorem gap_toward (position goal : Nat) :
    gap goal (toward position goal) = gap goal position - 1 ∧
      gap (toward position goal) position ≤ 1 ∧ toward position goal ≤ max position goal := by
  unfold gap toward
  split
  · omega
  · split <;> omega

/-- A king gets closer to any other cell by one step, and stays between the two on each axis. -/
theorem exists_closer {start cell : Coord} (apart : start ≠ cell) :
    ∃ near : Coord, near.areNeighbors cell = true ∧
      start.chebyshev near + 1 = start.chebyshev cell ∧
        near.x.toNat ≤ max cell.x.toNat start.x.toNat ∧
          near.y.toNat ≤ max cell.y.toNat start.y.toNat := by
  obtain ⟨closerX, stepX, insideX⟩ := gap_toward cell.x.toNat start.x.toNat
  obtain ⟨closerY, stepY, insideY⟩ := gap_toward cell.y.toNat start.y.toNat
  have boundX := cell.x.toNat_lt
  have boundY := cell.y.toNat_lt
  have startX := start.x.toNat_lt
  have startY := start.y.toNat_lt
  let near : Coord := ⟨.ofNat (toward cell.x.toNat start.x.toNat),
    .ofNat (toward cell.y.toNat start.y.toNat)⟩
  have nearX : near.x.toNat = toward cell.x.toNat start.x.toNat :=
    UInt32.toNat_ofNat_of_lt' (Nat.lt_of_le_of_lt insideX (Nat.max_lt.2 ⟨boundX, startX⟩))
  have nearY : near.y.toNat = toward cell.y.toNat start.y.toNat :=
    UInt32.toNat_ofNat_of_lt' (Nat.lt_of_le_of_lt insideY (Nat.max_lt.2 ⟨boundY, startY⟩))
  have far : start.chebyshev cell ≠ 0 := fun zero => apart (chebyshev_eq_zero_iff.mp zero)
  have closer : start.chebyshev near + 1 = start.chebyshev cell := by
    rw [chebyshev_eq] at far
    rw [chebyshev_eq, chebyshev_eq, nearX, nearY, closerX, closerY]
    omega
  refine ⟨near, areNeighbors_iff.mpr (chebyshev_eq_one_iff.mpr ⟨nearX ▸ stepX, nearY ▸ stepY, ?_⟩),
    closer, nearX ▸ insideX, nearY ▸ insideY⟩
  intro same
  rw [same] at closer
  omega

theorem peerId_injective {left right : Coord} (same : left.peerId = right.peerId) :
    left = right := by
  have digits (number : Nat) : '_' ∉ number.repr.toList := by
    rw [Nat.toList_repr]
    exact Nat.underscore_not_in_toDigits
  have spelled := congrArg String.toList same
  simp only [peerId, String.toList_append, List.append_assoc, List.append_cancel_left_eq] at spelled
  have parts := (List.append_cons_inj_of_notMem (digits _) (digits _)).1 spelled
  exact ext_toNat (eq_of_toList_repr parts.1) (eq_of_toList_repr parts.2.2)

end Coord

theorem Grid.mem_mooreNeighbors {grid : Grid} {coord other : Coord} :
    other ∈ grid.mooreNeighbors coord ↔
      grid.contains other = true ∧ coord.areNeighbors other = true := by
  rw [mooreNeighbors, List.mem_filter, List.mem_filterMap, Coord.mem_mooreSteps_iff, and_comm]

end GridDiffusion
