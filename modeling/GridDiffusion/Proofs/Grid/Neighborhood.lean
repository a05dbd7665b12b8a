import GridDiffusion.Proofs.Grid.Detour
/-! The Moore neighborhood: which cells are listed around a position and in which order, how many
they are by the place of the position, and how the nodes of these cells are recorded. -/
namespace GridDiffusion

variable {Source Target Cause : Type}

@[simp] theorem ok_bind (value : Source) (next : Source → Except Cause Target) :
    (Except.ok value >>= next) = next value := rfl

@[simp] theorem ok_mapError {Other : Type} (value : Source) (change : Cause → Other) :
    (Except.ok value).mapError change = .ok value := rfl

/-- A step that goes well for every member of a list goes well for the list. -/
theorem mapM_eq_ok {list : List Source}
    {step : Source → Except Cause Target} {result : Source → Target}
    (each : ∀ member ∈ list, step member = .ok (result member)) :
    list.mapM step = .ok (list.map result) := by
  induction list with
  | nil => rfl
  | cons head rest ih =>
    have here := each head List.mem_cons_self
    have others := ih fun member inside => each member (List.mem_cons_of_mem _ inside)
    rw [List.mapM_cons, here, others]
    rfl

/-- How the node of a cell is known to the nodes around it. -/
def Grid.neighborAt (grid : Grid) (cell : Coord) : Neighbor where
  id := cell.peerId
  address := { grid.base with port := grid.base.port + (cell.y * grid.size + cell.x).toUInt16 }
  coord := cell

namespace Grid
variable {grid : Grid} {cell : Coord}

theorem addressOf_neighborAt (onGrid : grid.contains cell = true) :
    grid.addressOf cell = .ok (grid.neighborAt cell).address :=
  addressOf_eq_ok_iff.mpr ⟨onGrid, rfl⟩

theorem neighborsOf_eq_ok (onGrid : grid.contains cell = true) :
    grid.neighborsOf cell = .ok ((grid.mooreNeighbors cell).map grid.neighborAt) := by
  have index : grid.indexOf cell = .ok (cell.y * grid.size + cell.x) := if_pos onGrid
  rw [neighborsOf, index, ok_bind]
  apply mapM_eq_ok
  intro near member
  rw [addressOf_neighborAt (mem_mooreNeighbors.mp member).1]
  rfl

theorem nodup_mooreNeighbors (grid : Grid) (cell : Coord) : (grid.mooreNeighbors cell).Nodup := by
  have steps : mooreSteps.Nodup := by decide
  refine List.Pairwise.filter _ (List.Pairwise.filterMap _ ?_ steps)
  rintro ⟨dx, dy⟩ ⟨ex, ey⟩ apart near found other otherFound rfl
  obtain ⟨x, y⟩ := Coord.offset?_eq_some_iff.mp found
  obtain ⟨otherX, otherY⟩ := Coord.offset?_eq_some_iff.mp otherFound
  dsimp only at x y otherX otherY
  have sameX : dx = ex := Int64.toInt_inj.1 (by omega)
  have sameY : dy = ey := Int64.toInt_inj.1 (by omega)
  exact apart (by rw [sameX, sameY])

theorem nodup_map_peerId (grid : Grid) (cell : Coord) :
    ((grid.mooreNeighbors cell).map Coord.peerId).Nodup := by
  rw [List.nodup_iff_pairwise_ne, List.pairwise_map]
  exact (nodup_mooreNeighbors grid cell).imp fun apart same => apart (Coord.peerId_injective same)

end Grid

/-- How far a cell lies from a position, on each axis. -/
def Coord.displacement (start goal : Coord) : Int × Int :=
  (goal.x.toNat - start.x.toNat, goal.y.toNat - start.y.toNat)

def kingSteps : List (Int × Int) :=
  [(-1, -1), (0, -1), (1, -1), (-1, 0), (1, 0), (-1, 1), (0, 1), (1, 1)]

theorem map_mooreSteps : mooreSteps.map (fun step => (step.1.toInt, step.2.toInt)) = kingSteps := rfl

theorem Coord.displacement_of_offset? {coord moved : Coord} {step : Int64 × Int64}
    (found : coord.offset? step.1 step.2 = some moved) :
    coord.displacement moved = (step.1.toInt, step.2.toInt) := by
  obtain ⟨x, y⟩ := offset?_eq_some_iff.mp found
  rw [displacement, Prod.mk.injEq]
  omega

/-- What is kept of a list and shown stands in the order of the list. -/
theorem sublist_map_filterMap {Source Target Shown : Type} {keep : Source → Option Target}
    {look : Target → Shown} {view : Source → Shown}
    (same : ∀ entry kept, keep entry = some kept → look kept = view entry) (list : List Source) :
    ((list.filterMap keep).map look).Sublist (list.map view) := by
  induction list with
  | nil => exact .slnil
  | cons entry rest ih =>
    cases found : keep entry with
    | none =>
      rw [List.filterMap_cons_none found]
      exact ih.cons _
    | some kept =>
      rw [List.filterMap_cons_some found, List.map_cons, List.map_cons, same entry kept found]
      exact ih.cons_cons _

namespace Grid
variable {grid : Grid} {coord : Coord}

theorem sublist_kingSteps (grid : Grid) (coord : Coord) :
    ((grid.mooreNeighbors coord).map coord.displacement).Sublist kingSteps := by
  rw [← map_mooreSteps]
  exact (List.filter_sublist.map coord.displacement).trans
    (sublist_map_filterMap (fun _ _ => Coord.displacement_of_offset?) mooreSteps)

def admits (grid : Grid) (position : UInt32) (step : Int64) : Bool :=
  0 ≤ (position.toNat : Int) + step.toInt && (position.toNat : Int) + step.toInt < grid.size.toNat

theorem admits_iff {position : UInt32} {step : Int64} : grid.admits position step = true ↔
    0 ≤ (position.toNat : Int) + step.toInt ∧ (position.toNat : Int) + step.toInt < grid.size.toNat := by
  rw [admits, Bool.and_eq_true, decide_eq_true_iff, decide_eq_true_iff]

theorem any_contains_offset? (grid : Grid) (coord : Coord) (dx dy : Int64) :
    (coord.offset? dx dy).any grid.contains =
      (grid.admits coord.x dx && grid.admits coord.y dy) := by
  rw [Bool.eq_iff_iff, Option.any_eq_true, Bool.and_eq_true, admits_iff, admits_iff]
  constructor
  · rintro ⟨moved, found, onGrid⟩
    obtain ⟨x, y⟩ := Coord.offset?_eq_some_iff.mp found
    obtain ⟨column, row⟩ := contains_iff.mp onGrid
    omega
  · rintro ⟨⟨left, right⟩, above, below⟩
    have column : ((coord.x.toNat : Int) + dx.toInt).toNat < grid.size.toNat := by omega
    have row : ((coord.y.toNat : Int) + dy.toInt).toNat < grid.size.toNat := by omega
    obtain ⟨moved, onGrid, x, y⟩ := exists_cell column row
    exact ⟨moved, Coord.offset?_eq_some_iff.mpr (by omega), onGrid⟩

theorem length_mooreNeighbors (grid : Grid) (coord : Coord) : (grid.mooreNeighbors coord).length =
    mooreSteps.countP fun step => grid.admits coord.x step.1 && grid.admits coord.y step.2 := by
  rw [mooreNeighbors, ← List.countP_eq_length_filter, List.countP_filterMap]
  refine List.countP_congr fun step _ => ?_
  rw [← any_contains_offset?]
  cases coord.offset? step.1 step.2 <;> simp

/-- The steps of a king are all pairs of a step back, none and a step forward, but for the pair of
none and none. -/
theorem countP_mooreSteps {column row : Int64 → Bool} (stays : column 0 = true) (rests : row 0 = true) :
    (mooreSteps.countP fun step => column step.1 && row step.2) =
      ((column (-1)).toNat + 1 + (column 1).toNat) * ((row (-1)).toNat + 1 + (row 1).toNat) - 1 := by
  simp only [mooreSteps, List.countP_cons, List.countP_nil, stays, rests]
  cases column (-1) <;> cases column 1 <;> cases row (-1) <;> cases row 1 <;> rfl

theorem toNat_admits (grid : Grid) (position : UInt32) (step : Int64) :
    (grid.admits position step).toNat = if 0 ≤ (position.toNat : Int) + step.toInt ∧
      (position.toNat : Int) + step.toInt < grid.size.toNat then 1 else 0 := by
  split
  next inside => rw [admits_iff.mpr inside, Bool.toNat_true]
  next outside => rw [Bool.eq_false_iff.mpr (mt admits_iff.mp outside), Bool.toNat_false]

theorem span_eq {position : UInt32} (inside : position.toNat < grid.size.toNat) :
    grid.span position = (grid.admits position (-1)).toNat + 1 + (grid.admits position 1).toNat := by
  have minus : (-1 : Int64).toInt = -1 := rfl
  have one : (1 : Int64).toInt = 1 := rfl
  rw [span, toNat_admits, toNat_admits, minus, one]
  split <;> split <;> omega

theorem length_mooreNeighbors_eq_span (onGrid : grid.contains coord = true) :
    (grid.mooreNeighbors coord).length = grid.span coord.x * grid.span coord.y - 1 := by
  obtain ⟨column, row⟩ := contains_iff.mp onGrid
  have still {position : UInt32} (inside : position.toNat < grid.size.toNat) :
      grid.admits position 0 = true := by
    have zero : (0 : Int64).toInt = 0 := rfl
    rw [admits_iff, zero]
    omega
  rw [length_mooreNeighbors, countP_mooreSteps (still column) (still row), span_eq column, span_eq row]

def isAtEnd (grid : Grid) (position : UInt32) : Bool :=
  position.toNat = 0 || position.toNat + 1 = grid.size.toNat

/-- How many neighbors a cell has where it lies: in a corner, at a border or inside. -/
def neighborCountAt (grid : Grid) (coord : Coord) : Nat :=
  if grid.size = 1 then 0
  else if grid.size = 2 then 3
  else match grid.isAtEnd coord.x, grid.isAtEnd coord.y with
    | true, true => 3
    | true, false | false, true => 5
    | false, false => 8

theorem span_of_inside {position : UInt32} (inside : position.toNat < grid.size.toNat) :
    grid.span position = if grid.size = 1 then 1 else if grid.size = 2 then 2 else
      if grid.isAtEnd position then 2 else 3 := by
  have one : (1 : UInt32).toNat = 1 := rfl
  have two : (2 : UInt32).toNat = 2 := rfl
  simp only [span, isAtEnd, ← UInt32.toNat_inj, one, two, Bool.or_eq_true, decide_eq_true_eq]
  split
  · omega
  · split
    · omega
    · split <;> omega

theorem length_mooreNeighbors_eq (onGrid : grid.contains coord = true) :
    (grid.mooreNeighbors coord).length = grid.neighborCountAt coord := by
  obtain ⟨column, row⟩ := contains_iff.mp onGrid
  rw [length_mooreNeighbors_eq_span onGrid, span_of_inside column, span_of_inside row, neighborCountAt]
  split
  · rfl
  · split
    · rfl
    · cases grid.isAtEnd coord.x <;> cases grid.isAtEnd coord.y <;> rfl

/-- The cells around a position, each once and in the order of the steps to them. The position
itself may lie off the grid. -/
structure Surrounds (grid : Grid) (coord : Coord) (cells : List Coord) : Prop where
  listed : ∀ cell, cell ∈ cells ↔ grid.contains cell = true ∧ coord.areNeighbors cell = true
  once : cells.Nodup
  inOrder : (cells.map coord.displacement).Sublist kingSteps

/-- The nodes of some cells, with the addresses of these cells and an id for each that no other has.
-/
structure RecordsOf (grid : Grid) (cells : List Coord) (records : List Neighbor) : Prop where
  cells : records.map (·.coord) = cells
  addressed : ∀ record ∈ records, grid.addressOf record.coord = .ok record.address
  named : ∀ record ∈ records, record.id = record.coord.peerId
  distinct : (records.map (·.id)).Nodup

theorem surrounds_mooreNeighbors (grid : Grid) (coord : Coord) :
    grid.Surrounds coord (grid.mooreNeighbors coord) where
  listed _ := mem_mooreNeighbors
  once := grid.nodup_mooreNeighbors coord
  inOrder := grid.sublist_kingSteps coord

theorem recordsOf_neighborAt (grid : Grid) (coord : Coord) : grid.RecordsOf (grid.mooreNeighbors coord)
    ((grid.mooreNeighbors coord).map grid.neighborAt) where
  cells := by
    rw [List.map_map]
    exact List.map_id _
  addressed := by
    simp only [List.forall_mem_map]
    exact fun near listed => addressOf_neighborAt (mem_mooreNeighbors.mp listed).1
  named := by
    simp only [List.forall_mem_map]
    exact fun near _ => rfl
  distinct := by
    rw [List.map_map]
    exact grid.nodup_map_peerId coord

/-- Neighbors are the cells at distance one. Around every position the cells of the grid at distance
one are listed, each once and in the order of the steps. On the grid being listed is mutual, each
listed cell is recorded with its address and an id of its own, and there are as many as the cell's
place lets expect. Off the grid there are no records and nothing is expected. -/
theorem neighborhood_exact (grid : Grid) :
    (∀ left right : Coord, left.areNeighbors right = true ↔ left.chebyshev right = 1) ∧
    (∀ coord, grid.Surrounds coord (grid.mooreNeighbors coord)) ∧
    (∀ coord, grid.contains coord = true →
      (∀ other, grid.contains other = true →
        (other ∈ grid.mooreNeighbors coord ↔ coord ∈ grid.mooreNeighbors other)) ∧
      (∃ records, grid.neighborsOf coord = .ok records ∧
        grid.RecordsOf (grid.mooreNeighbors coord) records) ∧
      grid.expectedNeighborCount? coord = some (grid.mooreNeighbors coord).length ∧
      (grid.mooreNeighbors coord).length = grid.neighborCountAt coord) ∧
    ∀ coord, grid.contains coord = false →
      grid.neighborsOf coord = .error (.outOfBounds coord grid.size) ∧
        grid.expectedNeighborCount? coord = none := by
  refine ⟨fun left right => Coord.areNeighbors_iff, grid.surrounds_mooreNeighbors,
    fun coord onGrid => ⟨fun other otherOnGrid => ?_, ?_, ?_, length_mooreNeighbors_eq onGrid⟩,
    fun coord offGrid => ?_⟩
  · rw [mem_mooreNeighbors, mem_mooreNeighbors, Coord.areNeighbors_comm, and_iff_right onGrid,
      and_iff_right otherOnGrid]
  · exact ⟨_, neighborsOf_eq_ok onGrid, grid.recordsOf_neighborAt coord⟩
  · rw [expectedNeighborCount?, if_pos onGrid, length_mooreNeighbors_eq_span onGrid]
  · have absent : ¬ grid.contains coord = true := Bool.eq_false_iff.mp offGrid
    have index : grid.indexOf coord = .error (.outOfBounds coord grid.size) := if_neg absent
    refine ⟨?_, if_neg absent⟩
    rw [neighborsOf, index]
    rfl

/-- Three rows of three cells, the smallest grid with a cell that is not at the border. -/
def nineCells : Grid where
  size := 3
  base := ⟨.loopback, 9000, 0⟩
  size_pos := by decide
  ports_fit := by decide

/-- In the middle of nine cells all others are neighbors. One column beyond them three still are, in
the order of the steps, and at the greatest position there is none. -/
theorem neighborhood_exact_nineCells :
    nineCells.expectedNeighborCount? ⟨1, 1⟩ = some 8 ∧
      nineCells.Surrounds ⟨3, 1⟩ [⟨2, 0⟩, ⟨2, 1⟩, ⟨2, 2⟩] ∧
      nineCells.neighborsOf ⟨3, 1⟩ = .error (.outOfBounds ⟨3, 1⟩ 3) ∧
      nineCells.Surrounds ⟨0xFFFFFFFF, 0xFFFFFFFF⟩ [] := by
  obtain ⟨-, around, inside, outside⟩ := neighborhood_exact nineCells
  obtain ⟨-, -, expected, count⟩ := inside ⟨1, 1⟩ (by decide)
  exact ⟨expected.trans (congrArg some count), around ⟨3, 1⟩, (outside ⟨3, 1⟩ (by decide)).1,
    around ⟨0xFFFFFFFF, 0xFFFFFFFF⟩⟩

end Grid
end GridDiffusion
