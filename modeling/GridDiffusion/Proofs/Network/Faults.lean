import Mathlib.Data.List.Perm.Subperm
import Mathlib.Data.Set.Card
import Mathlib.Data.Sym.Sym2
import GridDiffusion.Proofs.Grid.Detour
import GridDiffusion.Proofs.Network.Diffusion
import GridDiffusion.Proofs.Network.Peak
/-! Two faults do not stop the diffusion: there is always a way around two dead cells, two cut
links, or one of each. -/
namespace GridDiffusion

/-- What may fail in a network: a cell, or the link between two cells. -/
inductive Fault
  | dead (cell : Coord)
  | cut (link : Sym2 Coord)

def Fault.Touches : Fault → Coord → Prop
  | .dead cell, other => other = cell
  | .cut link, other => other ∈ link

namespace Network
variable {network : Network} {left right near origin cell : Coord} {first second third : Fault}

/-- The dead cells of a network and its cut links between neighbors. -/
def faults (network : Network) : Set Fault
  | .dead cell => network.grid.contains cell = true ∧ network.isAlive cell = false
  | .cut link => ∃ left right, link = s(left, right) ∧ left.areNeighbors right = true ∧
      network.isCut left right = true

theorem not_three_faults (few : network.faults.encard ≤ 2) (one : first ∈ network.faults)
    (two : second ∈ network.faults) (three : third ∈ network.faults) (firstSecond : first ≠ second)
    (firstThird : first ≠ third) (secondThird : second ≠ third) : False := by
  have listed : ({first, second, third} : Set Fault) ⊆ network.faults := by
    rintro fault (rfl | rfl | rfl)
    · exact one
    · exact two
    · exact three
  have count : ({first, second, third} : Set Fault).encard = 3 :=
    Set.encard_eq_three.mpr ⟨first, second, third, firstSecond, firstThird, secondThird, rfl⟩
  have bound := (Set.encard_le_encard listed).trans few
  rw [count] at bound
  exact absurd bound (by decide)

theorem exists_alive (few : network.faults.encard ≤ 2) {one two three : Coord}
    (oneOnGrid : network.grid.contains one = true) (twoOnGrid : network.grid.contains two = true)
    (threeOnGrid : network.grid.contains three = true) (oneTwo : one ≠ two) (oneThree : one ≠ three)
    (twoThree : two ≠ three) : network.isAlive one = true ∨ network.isAlive two = true ∨
      network.isAlive three = true := by
  by_contra dead
  simp only [not_or, Bool.not_eq_true] at dead
  obtain ⟨oneDead, twoDead, threeDead⟩ := dead
  have oneFault : .dead one ∈ network.faults := ⟨oneOnGrid, oneDead⟩
  have twoFault : .dead two ∈ network.faults := ⟨twoOnGrid, twoDead⟩
  have threeFault : .dead three ∈ network.faults := ⟨threeOnGrid, threeDead⟩
  exact not_three_faults few oneFault twoFault threeFault (fun same => oneTwo (Fault.dead.inj same))
    (fun same => oneThree (Fault.dead.inj same)) (fun same => twoThree (Fault.dead.inj same))

theorem WellFormed.cut_mem_faults (sound : network.WellFormed)
    (leftAlive : network.isAlive left = true) (rightAlive : network.isAlive right = true)
    (step : left.areNeighbors right = true) (apart : ¬ network.linkGraph.Adj left right) :
    .cut s(left, right) ∈ network.faults := by
  refine ⟨left, right, rfl, step, ?_⟩
  rw [sound.adj_iff, not_and, not_and, not_and] at apart
  exact Bool.not_eq_false _ ▸ apart leftAlive rightAlive step

theorem WellFormed.exists_fault (sound : network.WellFormed)
    (leftAlive : network.isAlive left = true) (rightAlive : network.isAlive right = true)
    (fromLeft : near ∈ network.grid.mooreNeighbors left)
    (fromRight : near ∈ network.grid.mooreNeighbors right)
    (apart : ¬ network.linkGraph.Reachable left right) :
    ∃ fault ∈ network.faults, fault.Touches near ∧
      ∀ other, fault.Touches other → other = near ∨ other = left ∨ other = right := by
  obtain ⟨onGrid, step⟩ := Grid.mem_mooreNeighbors.mp fromLeft
  have stepRight := (Grid.mem_mooreNeighbors.mp fromRight).2
  cases alive : network.isAlive near with
  | false => exact ⟨.dead near, ⟨onGrid, alive⟩, rfl, fun other same => .inl same⟩
  | true =>
    by_cases open_ : network.linkGraph.Adj left near
    · have blocked : ¬ network.linkGraph.Adj right near := fun link =>
        apart (open_.reachable.trans link.symm.reachable)
      refine ⟨_, sound.cut_mem_faults rightAlive alive stepRight blocked, Sym2.mem_mk_right .., ?_⟩
      intro other touches
      exact (Sym2.mem_iff.mp touches).elim (fun same => .inr (.inr same)) .inl
    · refine ⟨_, sound.cut_mem_faults leftAlive alive step open_, Sym2.mem_mk_right .., ?_⟩
      intro other touches
      exact (Sym2.mem_iff.mp touches).elim (fun same => .inr (.inl same)) .inl

/-- Alive neighbors reach each other: over their link, or around over one of two other cells. -/
theorem WellFormed.reachable_of_areNeighbors (sound : network.WellFormed)
    (few : network.faults.encard ≤ 2) (leftAlive : network.isAlive left = true)
    (rightAlive : network.isAlive right = true) (step : left.areNeighbors right = true) :
    network.linkGraph.Reachable left right := by
  by_contra apart
  obtain ⟨first, second, distinct, ⟨firstLeft, firstRight⟩, secondLeft, secondRight⟩ :=
    Grid.exists_common (contains_of_isAlive leftAlive) (contains_of_isAlive rightAlive) step
  have cut := sound.cut_mem_faults leftAlive rightAlive step fun link => apart link.reachable
  obtain ⟨one, oneFault, oneTouches, oneOnly⟩ :=
    sound.exists_fault leftAlive rightAlive firstLeft firstRight apart
  obtain ⟨two, twoFault, twoTouches, -⟩ :=
    sound.exists_fault leftAlive rightAlive secondLeft secondRight apart
  have away {start near : Coord} (around : near ∈ network.grid.mooreNeighbors start) : near ≠ start :=
    (Coord.ne_of_areNeighbors (Grid.mem_mooreNeighbors.mp around).2).symm
  -- The link and the two ways around it have no fault in common.
  refine not_three_faults few cut oneFault twoFault ?_ ?_ ?_
  · rintro rfl
    exact (Sym2.mem_iff.mp oneTouches).elim (away firstLeft) (away firstRight)
  · rintro rfl
    exact (Sym2.mem_iff.mp twoTouches).elim (away secondLeft) (away secondRight)
  · rintro rfl
    rcases oneOnly second twoTouches with same | same | same
    · exact distinct same.symm
    · exact away secondLeft same
    · exact away secondRight same

theorem WellFormed.reachable_of_gaps (sound : network.WellFormed)
    (few : network.faults.encard ≤ 2) (leftAlive : network.isAlive left = true)
    (rightAlive : network.isAlive right = true) (columns : Coord.gap left.x.toNat right.x.toNat ≤ 1)
    (rows : Coord.gap left.y.toNat right.y.toNat ≤ 1) : network.linkGraph.Reachable left right := by
  by_cases same : left = right
  · exact same ▸ .refl left
  · have step := Coord.areNeighbors_iff.mpr (Coord.chebyshev_eq_one_iff.mpr ⟨columns, rows, same⟩)
    exact sound.reachable_of_areNeighbors few leftAlive rightAlive step

theorem exists_alive_in_block (few : network.faults.encard ≤ 2) {low row : Nat}
    (fits : low + 2 < network.grid.size.toNat) (inside : row < network.grid.size.toNat) :
    ∃ near : Coord, network.isAlive near = true ∧ near.y.toNat = row ∧ low ≤ near.x.toNat ∧
      near.x.toNat ≤ low + 2 := by
  obtain ⟨first, firstOnGrid, firstX, firstY⟩ := Grid.exists_cell (x := low) (by omega) inside
  obtain ⟨second, secondOnGrid, secondX, secondY⟩ :=
    Grid.exists_cell (x := low + 1) (by omega) inside
  obtain ⟨third, thirdOnGrid, thirdX, thirdY⟩ := Grid.exists_cell fits inside
  rcases exists_alive few firstOnGrid secondOnGrid thirdOnGrid (Coord.ne_of_axes (by omega))
    (Coord.ne_of_axes (by omega)) (Coord.ne_of_axes (by omega)) with up | up | up
  · exact ⟨first, up, firstY, by omega, by omega⟩
  · exact ⟨second, up, secondY, by omega, by omega⟩
  · exact ⟨third, up, thirdY, by omega, by omega⟩

/-- From an alive cell of a wide grid some alive cell of the next row can be reached. Where the
alive cell there that lies in a block of three columns with it is not beside it, the way goes over
the middle of the block, unless the next row can be reached there or straight ahead. -/
theorem WellFormed.exists_reachable_beside (sound : network.WellFormed)
    (few : network.faults.encard ≤ 2) (wide : 3 ≤ network.grid.size.toNat)
    (alive : network.isAlive cell = true) {row : Nat} (inside : row < network.grid.size.toNat)
    (next : Coord.gap cell.y.toNat row = 1) :
    ∃ near, near.y.toNat = row ∧ network.isAlive near = true ∧
      network.linkGraph.Reachable cell near := by
  obtain ⟨column, level⟩ := Grid.contains_iff.mp (contains_of_isAlive alive)
  obtain ⟨low, fits, lowest, highest⟩ : ∃ low, low + 2 < network.grid.size.toNat ∧
      low ≤ cell.x.toNat ∧ cell.x.toNat ≤ low + 2 :=
    ⟨min cell.x.toNat (network.grid.size.toNat - 3), by omega, by omega, by omega⟩
  obtain ⟨near, nearAlive, nearY, nearLow, nearHigh⟩ := exists_alive_in_block few fits inside
  by_cases close : Coord.gap cell.x.toNat near.x.toNat ≤ 1
  · exact ⟨near, nearY, nearAlive,
      sound.reachable_of_gaps few alive nearAlive close (by rw [nearY, next])⟩
  · have toMiddle := Coord.gap_middle_le lowest highest
    have fromMiddle : Coord.gap (low + 1) near.x.toNat ≤ 1 :=
      Coord.gap_comm .. ▸ Coord.gap_middle_le nearLow nearHigh
    have aside : cell.x.toNat ≠ low + 1 := fun same => close (same ▸ fromMiddle)
    have apart : cell.y.toNat ≠ row := by
      rintro rfl
      rw [Coord.gap_self] at next
      cases next
    obtain ⟨middle, middleOnGrid, middleX, middleY⟩ :=
      Grid.exists_cell (x := low + 1) (by omega) level
    obtain ⟨beyond, beyondOnGrid, beyondX, beyondY⟩ :=
      Grid.exists_cell (x := low + 1) (by omega) inside
    obtain ⟨ahead, aheadOnGrid, aheadX, aheadY⟩ := Grid.exists_cell column inside
    rcases exists_alive few middleOnGrid beyondOnGrid aheadOnGrid (Coord.ne_of_axes (by omega))
      (Coord.ne_of_axes (by omega)) (Coord.ne_of_axes (by omega)) with up | up | up
    · have there := sound.reachable_of_gaps few alive up (by rwa [middleX])
        (by rw [middleY, Coord.gap_self]; exact Nat.zero_le 1)
      have onward := sound.reachable_of_gaps few up nearAlive (by rwa [middleX])
        (by rw [middleY, nearY, next])
      exact ⟨near, nearY, nearAlive, there.trans onward⟩
    · exact ⟨beyond, beyondY, up, sound.reachable_of_gaps few alive up (by rwa [beyondX])
        (by rw [beyondY, next])⟩
    · exact ⟨ahead, aheadY, up, sound.reachable_of_gaps few alive up
        (by rw [aheadX, Coord.gap_self]; exact Nat.zero_le 1) (by rw [aheadY, next])⟩

/-- Row by row, some alive cell of any row can be reached. -/
theorem WellFormed.exists_reachable_in_row (sound : network.WellFormed)
    (few : network.faults.encard ≤ 2) (wide : 3 ≤ network.grid.size.toNat) {row : Nat}
    (inside : row < network.grid.size.toNat) (alive : network.isAlive cell = true) :
    ∃ near, near.y.toNat = row ∧ network.isAlive near = true ∧
      network.linkGraph.Reachable cell near := by
  obtain ⟨steps, far⟩ : ∃ steps, Coord.gap cell.y.toNat row = steps := ⟨_, rfl⟩
  induction steps generalizing cell with
  | zero => exact ⟨cell, Coord.gap_eq_zero_iff.mp far, alive, .refl cell⟩
  | succ steps ih =>
    have level := (Grid.contains_iff.mp (contains_of_isAlive alive)).2
    obtain ⟨next, nextInside, one, rest⟩ := Coord.exists_toward level inside far
    obtain ⟨near, nearRow, nearAlive, there⟩ :=
      sound.exists_reachable_beside few wide alive nextInside one
    obtain ⟨goal, goalRow, goalAlive, onward⟩ := ih nearAlive (nearRow ▸ rest)
    exact ⟨goal, goalRow, goalAlive, there.trans onward⟩

theorem WellFormed.reachable_in_row (sound : network.WellFormed)
    (few : network.faults.encard ≤ 2) {row : Nat}
    (clean : ∀ cell, network.grid.contains cell = true → cell.y.toNat = row →
      network.isAlive cell = true)
    (leftOnGrid : network.grid.contains left = true) (leftRow : left.y.toNat = row)
    (rightOnGrid : network.grid.contains right = true) (rightRow : right.y.toNat = row) :
    network.linkGraph.Reachable left right := by
  have sameRow {first second : Coord} (firstRow : first.y.toNat = row)
      (secondRow : second.y.toNat = row) : Coord.gap first.y.toNat second.y.toNat ≤ 1 := by
    rw [firstRow, secondRow, Coord.gap_self]
    exact Nat.zero_le 1
  obtain ⟨steps, far⟩ : ∃ steps, Coord.gap left.x.toNat right.x.toNat = steps := ⟨_, rfl⟩
  induction steps generalizing left with
  | zero =>
    exact sound.reachable_of_gaps few (clean left leftOnGrid leftRow)
      (clean right rightOnGrid rightRow) (by omega) (sameRow leftRow rightRow)
  | succ steps ih =>
    obtain ⟨column, level⟩ := Grid.contains_iff.mp leftOnGrid
    obtain ⟨next, nextInside, one, rest⟩ :=
      Coord.exists_toward column (Grid.contains_iff.mp rightOnGrid).1 far
    obtain ⟨near, nearOnGrid, nearX, nearY⟩ := Grid.exists_cell nextInside level
    have nearRow := nearY.trans leftRow
    have there := sound.reachable_of_gaps few (clean left leftOnGrid leftRow)
      (clean near nearOnGrid nearRow) (by rw [nearX, one]) (sameRow leftRow nearRow)
    exact there.trans (ih nearOnGrid nearRow (nearX ▸ rest))

theorem exists_clean_row (few : network.faults.encard ≤ 2) (wide : 3 ≤ network.grid.size.toNat) :
    ∃ row < network.grid.size.toNat, ∀ cell, network.grid.contains cell = true →
      cell.y.toNat = row → network.isAlive cell = true := by
  by_contra none
  have dead (row : Nat) (inside : row < network.grid.size.toNat) :
      ∃ cell, network.grid.contains cell = true ∧ cell.y.toNat = row ∧
        network.isAlive cell = false := by
    by_contra whole
    refine none ⟨row, inside, fun cell onGrid here => Bool.not_eq_false _ ▸ fun down => ?_⟩
    exact whole ⟨cell, onGrid, here, down⟩
  obtain ⟨one, oneOnGrid, oneRow, oneDead⟩ := dead 0 (by omega)
  obtain ⟨two, twoOnGrid, twoRow, twoDead⟩ := dead 1 (by omega)
  obtain ⟨three, threeOnGrid, threeRow, threeDead⟩ := dead 2 (by omega)
  rcases exists_alive few oneOnGrid twoOnGrid threeOnGrid (Coord.ne_of_axes (by omega))
    (Coord.ne_of_axes (by omega)) (Coord.ne_of_axes (by omega)) with up | up | up
  · cases up.symm.trans oneDead
  · cases up.symm.trans twoDead
  · cases up.symm.trans threeDead

/-- Two faults leave the alive cells connected. -/
theorem WellFormed.reachable_of_few (sound : network.WellFormed)
    (few : network.faults.encard ≤ 2) (leftAlive : network.isAlive left = true)
    (rightAlive : network.isAlive right = true) : network.linkGraph.Reachable left right := by
  rcases Nat.lt_or_ge network.grid.size.toNat 3 with narrow | wide
  · obtain ⟨leftColumn, leftRow⟩ := Grid.contains_iff.mp (contains_of_isAlive leftAlive)
    obtain ⟨rightColumn, rightRow⟩ := Grid.contains_iff.mp (contains_of_isAlive rightAlive)
    apply sound.reachable_of_gaps few leftAlive rightAlive <;> unfold Coord.gap <;> omega
  · obtain ⟨row, inside, clean⟩ := exists_clean_row few wide
    obtain ⟨first, firstRow, firstAlive, there⟩ :=
      sound.exists_reachable_in_row few wide inside leftAlive
    obtain ⟨last, lastRow, lastAlive, back⟩ :=
      sound.exists_reachable_in_row few wide inside rightAlive
    have along := sound.reachable_in_row few clean (contains_of_isAlive firstAlive) firstRow
      (contains_of_isAlive lastAlive) lastRow
    exact there.trans (along.trans back.symm)

theorem isAlive_of_mem_support (alive : network.isAlive left = true)
    (walk : network.linkGraph.Walk left right) (visited : cell ∈ walk.support) :
    network.isAlive cell = true := by
  induction walk with
  | nil => exact List.mem_singleton.mp visited ▸ alive
  | cons step rest ih =>
    rcases List.mem_cons.mp visited with here | later
    · exact here ▸ alive
    · exact ih step.2.1 later

/-- A shortest path visits no cell twice. -/
theorem edist_le_of_reachable (alive : network.isAlive left = true)
    (reach : network.linkGraph.Reachable left right) :
    network.linkGraph.edist left right ≤ (network.grid.cellCount - 1 : Nat) := by
  obtain ⟨path, simple⟩ := reach.exists_isPath
  have onGrid : path.support ⊆ network.grid.cells.toList := by
    intro cell visited
    exact Grid.mem_cells_iff.mpr (contains_of_isAlive (isAlive_of_mem_support alive path visited))
  have short := (simple.support_nodup.subperm onGrid).length_le
  rw [SimpleGraph.Walk.length_support, Vector.length_toList] at short
  exact (network.linkGraph.edist_le path).trans (ENat.natCast_le_natCast.mpr (by omega))

/-- Two faults do not stop the diffusion. With an energy of at least the number of cells, an
injected item is at every alive cell after as many rounds as there are other cells, whichever two
cells are dead or links between neighbors are cut. -/
theorem held_of_few_faults (reached : network.Reachable) (flying : network.inFlight = [])
    (few : network.faults.encard ≤ 2) (alive : network.isAlive origin = true) {id content : String}
    (unheld : ∀ cell, network.held? cell id = none) {energy : UInt64}
    (enough : network.grid.cellCount ≤ energy.toNat) (bounded : energy.toNat ≤ 2 ^ 63 - 1)
    (fits : network.FitsOnItsWay origin id content energy.toNat) :
    let ran := (network.perform (.localInject origin id content energy)).runRounds
      (network.grid.cellCount - 1)
    (∀ cell, ran.isAlive cell = network.isAlive cell) ∧
      ∀ cell, network.isAlive cell = true → ∃ item, ran.held? cell id = some item := by
  intro ran
  have ordered := reached.wellFormed
  have cells : 0 < network.grid.cellCount :=
    Nat.mul_pos network.grid.size_pos network.grid.size_pos
  have charged := ne_zero_of_one_le_toNat (Nat.le_trans cells enough)
  have state : Diffused network ran origin id content energy.toNat (network.grid.cellCount - 1) :=
    (diffused_localInject ordered flying alive unheld charged content).runRounds ordered bounded fits _
  refine ⟨state.alive, fun cell up => ?_⟩
  have reach := ordered.reachable_of_few few alive up
  exact state.filled (by omega) (edist_le_of_reachable alive reach)

theorem contains_of_isCut (cut : network.isCut left right = true) :
    network.grid.contains left = true ∧ network.grid.contains right = true := by
  unfold isCut at cut
  split at cut
  next source target first second =>
    exact ⟨(Grid.addressOf_eq_ok_iff.mp first).1, (Grid.addressOf_eq_ok_iff.mp second).1⟩
  · cases cut

/-- In a grid of four cells with a dead cell and a cut link, three rounds take an item from a corner
to the one at the other end of the link. -/
theorem held_of_few_faults_corner : ∃ network : Network, network.Reachable ∧
    network.inFlight = [] ∧ network.faults.encard ≤ 2 ∧ network.isAlive ⟨0, 1⟩ = false ∧
      network.isCut ⟨0, 0⟩ ⟨1, 1⟩ = true ∧ ∃ item, ((network.perform
        (.localInject ⟨0, 0⟩ "x" "" 4)).runRounds 3).held? ⟨1, 1⟩ "x" = some item := by
  let network := (fresh .fourCells).performAll [.localKill ⟨0, 1⟩, .cut ⟨0, 0⟩ ⟨1, 1⟩]
  have reached : network.Reachable := (reachable_fresh rfl (by decide)).performAll _
  have flying : network.inFlight = [] := by decide +kernel
  have alive : network.isAlive ⟨0, 0⟩ = true := by decide +kernel
  have quiet : network.isQuiet = true := by decide +kernel
  have down : ∀ cell ∈ network.grid.cells.toList, network.isAlive cell = false → cell = ⟨0, 1⟩ := by
    decide +kernel
  have cut : ∀ left ∈ network.grid.cells.toList, ∀ right ∈ network.grid.cells.toList,
      network.isCut left right = true → s(left, right) = s((⟨0, 0⟩ : Coord), ⟨1, 1⟩) := by
    decide +kernel
  have few : network.faults.encard ≤ 2 := by
    have differ : Fault.dead ⟨0, 1⟩ ≠ .cut s(⟨0, 0⟩, ⟨1, 1⟩) := nofun
    rw [← Set.encard_pair differ]
    apply Set.encard_le_encard
    intro fault present
    cases fault with
    | dead cell =>
      exact .inl (congrArg Fault.dead (down cell (Grid.mem_cells_iff.mpr present.1) present.2))
    | cut link =>
      obtain ⟨left, right, rfl, -, cut_⟩ := present
      obtain ⟨leftOnGrid, rightOnGrid⟩ := contains_of_isCut cut_
      exact .inr (congrArg Fault.cut (cut left (Grid.mem_cells_iff.mpr leftOnGrid) right
        (Grid.mem_cells_iff.mpr rightOnGrid) cut_))
  have short : "x".utf8ByteSize + "".utf8ByteSize ≤ 10000 := by decide
  have fits : network.FitsOnItsWay ⟨0, 0⟩ "x" "" (4 : UInt64).toNat :=
    fun cell _ _ _ _ _ _ => Message.fits_of_cell cell short
  obtain ⟨-, holds⟩ := held_of_few_faults reached flying few alive
    (fun cell => isQuiet_iff.mp quiet cell "x") (by decide +kernel : _ ≤ (4 : UInt64).toNat)
    (by decide) fits
  exact ⟨network, reached, flying, few, by decide +kernel, by decide +kernel,
    holds ⟨1, 1⟩ (by decide +kernel)⟩

end Network
end GridDiffusion
