import GridDiffusion.Control.Run
import GridDiffusion.Proofs.Message.Size
import GridDiffusion.Proofs.Number.Share
import GridDiffusion.Proofs.Service.Delivery
/-! Failures at random: the share of a grid that is told to fail consists of distinct cells, each of
them is told once, and nobody else fails. -/
namespace GridDiffusion

namespace Coord
variable {first second : Coord} {coords : List Coord}

theorem compare_eq_lt_iff : compare first second = .lt ↔
    first.x < second.x ∨ first.x = second.x ∧ first.y < second.y := by
  change (compare first.x second.x).then (compare first.y second.y) = .lt ↔ _
  rw [Ordering.then_eq_lt, Std.compare_eq_lt, Std.compare_eq_lt, Std.compare_eq_iff_eq]

theorem perm_sort (coords : List Coord) : (sort coords).Perm coords := List.mergeSort_perm coords _

theorem pairwise_sort (distinct : coords.Nodup) :
    (sort coords).Pairwise fun first second => compare first second = .lt := by
  have sorted : (sort coords).Pairwise fun first second : Coord => (compare first second).isLE = true := by
    refine List.pairwise_mergeSort (fun _ _ _ => Std.TransCmp.isLE_trans) (fun left right => ?_) coords
    rw [Bool.or_eq_true]
    by_contra neither
    push Not at neither
    exact neither.2 (Ordering.isLE_of_eq_lt (Std.OrientedCmp.lt_of_not_isLE neither.1))
  refine (sorted.and ((perm_sort coords).nodup_iff.mpr distinct)).imp fun {left right} related => ?_
  obtain ⟨below, apart⟩ := related
  cases order : compare left right with
  | lt => rfl
  | eq => exact absurd (Std.LawfulEqCmp.eq_of_compare order) apart
  | gt =>
    rw [order] at below
    cases below

end Coord

namespace Grid
variable {grid : Grid} {fraction : Binary64}

/-- Victims that make up a fraction of a grid: distinct cells of the grid, column by column, as many
as the product of the two doubles says. -/
structure AreVictims (grid : Grid) (fraction : Binary64) (victims : List Coord) : Prop where
  increasing : victims.Pairwise fun first second =>
    first.x < second.x ∨ first.x = second.x ∧ first.y < second.y
  onGrid : ∀ victim ∈ victims, grid.contains victim = true
  amount : ∃ whole product : Binary64, whole.isFinite = true ∧ whole.value = grid.cellCount ∧
    Binary64.IsNearest (whole.value * fraction.value) product ∧
      victims.length = ⌊product.value⌋₊
  few : victims.length ≤ grid.cellCount

theorem AreVictims.nodup {victims : List Coord} (are : grid.AreVictims fraction victims) :
    victims.Nodup := are.increasing.imp fun below same => by
  rw [same] at below
  exact below.elim (UInt32.lt_irrefl _) fun row => UInt32.lt_irrefl _ row.2

theorem cellAt_injective : Function.Injective grid.cellAt := by
  intro first second same
  have found := grid.place?_cellAt first
  rw [same, place?_cellAt] at found
  exact (Option.some.inj found).symm

theorem pickVictims_of_fraction (source : RandomSource) (share : fraction.IsFraction) :
    ∃ victims, grid.pickVictims source fraction = .ok victims ∧ grid.AreVictims fraction victims := by
  have cells : grid.cellCount < 2 ^ 53 := by
    have side := grid.size_le
    exact Nat.lt_of_le_of_lt (Nat.mul_le_mul side side) (by decide)
  obtain ⟨whole, product, finite, same, nearest, floor, few⟩ := Binary64.shareOf_spec share cells
  let picked := (source.sample (fraction.shareOf grid.cellCount) grid.cellCount).map grid.cellAt
  have sorted : (Coord.sort picked).Perm picked := Coord.perm_sort picked
  have amount : (Coord.sort picked).length = fraction.shareOf grid.cellCount := by
    rw [sorted.length_eq, List.length_map, source.length_sample, Nat.min_eq_left few]
  refine ⟨Coord.sort picked, if_pos (Binary64.isShare_iff.mpr share), ?_⟩
  constructor
  case increasing =>
    have distinct : picked.Nodup := (source.sample_nodup _ _).map cellAt_injective
    exact (Coord.pairwise_sort distinct).imp Coord.compare_eq_lt_iff.mp
  case onGrid =>
    intro victim member
    obtain ⟨place, -, rfl⟩ := List.mem_map.mp (sorted.mem_iff.mp member)
    exact contains_cellAt place
  case amount => exact ⟨whole, product, finite, same, nearest, amount.trans floor⟩
  case few => exact amount ▸ few

theorem pickVictims_of_not_fraction (source : RandomSource) (share : ¬ fraction.IsFraction) :
    grid.pickVictims source fraction = .error (.invalidFraction fraction) :=
  if_neg fun accepted => share (Binary64.isShare_iff.mp accepted)

end Grid

namespace Probe
variable {probe : Probe} {grid : Grid} {message : Message} {cells : List Coord} {bytes : ByteArray}

/-- The same message to some cells: one datagram to the address of each, and none to another
address. -/
structure Addresses (probe : Probe) (grid : Grid) (message : Message) (cells : List Coord)
    (sent : List CellDelivery) : Prop where
  coords : sent.map (·.coord) = cells
  target : ∀ one ∈ sent, grid.addressOf one.coord = .ok one.delivery.target
  source : ∀ one ∈ sent, one.delivery.datagram.source = probe.address
  reads : ∀ one ∈ sent, Message.decode one.delivery.datagram.bytes = .ok message
  once : (sent.map (·.delivery.target)).Nodup
  only : ∀ address, address ∈ sent.map (·.delivery.target) ↔
    ∃ cell ∈ cells, grid.addressOf cell = .ok address

/-- One message that a probe can send goes out to all cells of a list, if they are on the grid. -/
theorem exists_sent (sends : probe.link.transmit message = .ok bytes)
    (onGrid : ∀ cell ∈ cells, grid.contains cell = true) (distinct : cells.Nodup)
    (read : Message.decode bytes = .ok message) :
    ∃ sent, (cells.mapM fun cell => probe.sendTo grid cell message) = .ok sent ∧
      probe.Addresses grid message cells sent := by
  let one (cell : Coord) : CellDelivery :=
    ⟨cell, (grid.neighborAt cell).address, probe.address, bytes⟩
  have found {cell : Coord} (member : cell ∈ cells) :
      grid.addressOf cell = .ok (grid.neighborAt cell).address :=
    Grid.addressOf_neighborAt (onGrid cell member)
  refine ⟨cells.map one, mapM_eq_ok fun cell member => sendTo_eq_ok (found member) sends, ?_⟩
  constructor
  case coords => rw [List.map_map]; exact List.map_id cells
  case target => exact List.forall_mem_map.mpr fun _ => found
  case source => exact List.forall_mem_map.mpr fun _ _ => rfl
  case reads => exact List.forall_mem_map.mpr fun _ _ => read
  case once =>
    rw [List.map_map]
    exact List.Nodup.map_on (fun first inside second otherInside same =>
      Grid.addressOf_injective ((found inside).trans (congrArg Except.ok same)) (found otherInside))
      distinct
  case only =>
    intro address
    rw [List.map_map, List.mem_map]
    refine exists_congr fun cell => and_congr_right fun member => ?_
    rw [found member, Except.ok.injEq]
    rfl

theorem decode_death (sends : probe.link.transmit probe.death = .ok bytes) :
    Message.decode bytes = .ok probe.death :=
  have carried : probe.death.IsCarried := trivial
  Link.decode_of_transmit carried rfl sends

end Probe

theorem Message.fits_die {sender : String} (short : 6 * sender.utf8ByteSize + 59 ≤ datagramLimit) :
    (die sender).Fits := by
  have parts : (Json.Spelling.ofText MessageKind.die.name).length = 3 ∧
      (Json.Value.int (0 : Int64).toInt).width = 1 ∧ (0 : UInt64).toNat.repr.length = 1 := by decide
  have spelled := Json.Spelling.length_ofText_le sender
  rw [Fits, utf8ByteSize_text]
  simp only [kind, Message.sender, dataValue, charge, Json.Value.width, parts]
  omega

theorem Node.handleAll_deaths {arrivals : List (Message × Address)}
    (deaths : ∀ arrival ∈ arrivals, arrival.1.kind = .die) (node : Node) :
    node.handleAll arrivals = if arrivals = [] then node else node.kill := by
  induction arrivals generalizing node with
  | nil => rfl
  | cons arrival rest ih =>
    obtain ⟨here, others⟩ := List.forall_mem_cons.mp deaths
    obtain ⟨message, source⟩ := arrival
    cases message with
    | die sender =>
      have failed : node.handleAll ((.die sender, source) :: rest) = node.kill.handleAll rest := rfl
      rw [failed, ih others, if_neg (List.cons_ne_nil _ _)]
      split <;> rfl
    | _ => cases here

/-- A grid in service after some of its nodes have failed: they are dead and empty, and the others
are as they were. -/
def Services.fail (grid : Grid) (victims : List Coord) (services : Services) : Services :=
  List.zipWith (fun cell service =>
    if cell ∈ victims then { service with node := { service.node with alive := false, store := .empty } }
    else service) grid.coords services

namespace Probe
variable {probe : Probe} {grid : Grid} {victims : List Coord} {sent : List CellDelivery}
  {cell : Coord} {address : Address} {arrivals : List Delivery}

/-- What arrives of the orders are orders. -/
theorem Addresses.kind_of_mem_arrivalsAt (addresses : probe.Addresses grid probe.death victims sent)
    (arrive : ∀ delivery, delivery ∈ arrivals ↔ delivery ∈ sent.map (·.delivery))
    (found : grid.addressOf cell = .ok address) :
    ∀ arrival ∈ arrivalsAt address arrivals, arrival.1.kind = .die := by
  intro arrival member
  obtain ⟨one, inside, -, brought⟩ :=
    (mem_arrivalsAt_iff_of_sent id addresses.target arrive found).mp member
  have read := (Datagram.arrival?_eq_some_iff.mp brought).1
  rw [id, addresses.reads one inside] at read
  rw [← Except.ok.inj read]
  rfl

/-- An order arrives where a victim is. -/
theorem Addresses.arrivalsAt_ne_nil_iff (addresses : probe.Addresses grid probe.death victims sent)
    (arrive : ∀ delivery, delivery ∈ arrivals ↔ delivery ∈ sent.map (·.delivery))
    (found : grid.addressOf cell = .ok address) :
    arrivalsAt address arrivals ≠ [] ↔ cell ∈ victims := by
  rw [← addresses.coords]
  constructor
  · intro struck
    obtain ⟨arrival, member⟩ := List.exists_mem_of_ne_nil _ struck
    obtain ⟨one, inside, here, -⟩ :=
      (mem_arrivalsAt_iff_of_sent id addresses.target arrive found).mp member
    exact List.mem_map.mpr ⟨one, inside, here⟩
  · intro victim
    obtain ⟨one, inside, here⟩ := List.mem_map.mp victim
    have brought := Datagram.arrival?_eq_some_iff.mpr ⟨addresses.reads one inside, rfl⟩
    exact List.ne_nil_of_mem
      ((mem_arrivalsAt_iff_of_sent id addresses.target arrive found).mpr ⟨one, inside, here, brought⟩)

/-- The orders to fail do what they say, in whatever order and however often they arrive. -/
theorem Addresses.deliverAll (addresses : probe.Addresses grid probe.death victims sent)
    {services : Services} (serves : Services.Serves grid services) (link : Link)
    (arrive : ∀ delivery, delivery ∈ arrivals ↔ delivery ∈ sent.map (·.delivery)) :
    (services.deliverAll link arrivals).2 = services.fail grid victims := by
  rw [serves.deliverAll link arrivals]
  refine serves.map_eq_zipWith fun cell service found => ?_
  have deaths := addresses.kind_of_mem_arrivalsAt arrive found
  have struck := addresses.arrivalsAt_ne_nil_iff arrive found
  rw [NodeService.handleAll, Node.handleAll_deaths deaths]
  by_cases victim : cell ∈ victims
  · rw [if_pos victim, if_neg (struck.mpr victim)]
    rfl
  · rw [if_neg victim, if_pos (not_not.mp (mt struck.mp victim))]

/-- A command to fail a share of the grid strikes exactly that share. What is no share is refused
before anything is sent. Otherwise distinct cells of the grid are picked, as many as the product of
the count and the share says, each of them is sent one order, and once the orders have arrived these
nodes are dead and empty and the others as they were. -/
theorem killRandom_exact (probe : Probe) (grid : Grid) (source : RandomSource) (fraction : Binary64) :
    (¬ fraction.IsFraction →
      probe.killRandom grid source fraction = .error (.invalidFraction fraction) ∧
        ∀ machine : Machine, (machine.runKillRandom grid fraction).2 = machine) ∧
    (fraction.IsFraction → (∃ bytes, probe.link.transmit probe.death = .ok bytes) →
      ∃ victims sent, grid.pickVictims source fraction = .ok victims ∧
        probe.killRandom grid source fraction = .ok sent ∧ grid.AreVictims fraction victims ∧
          probe.Addresses grid probe.death victims sent ∧
            ∀ services link arrivals, Services.Serves grid services →
              (∀ delivery, delivery ∈ arrivals ↔ delivery ∈ sent.map (·.delivery)) →
                (services.deliverAll link arrivals).2 = services.fail grid victims) := by
  constructor
  · intro share
    have refused {probe : Probe} {source : RandomSource} :
        probe.killRandom grid source fraction = .error (.invalidFraction fraction) := by
      rw [killRandom, Grid.pickVictims_of_not_fraction source share]
      rfl
    refine ⟨refused, fun machine => ?_⟩
    unfold Machine.runKillRandom
    cases machine.probe grid.base.host with
    | error cause => rfl
    | ok probe =>
      rw [ok_bind, refused]
      rfl
  · rintro share ⟨bytes, sends⟩
    obtain ⟨victims, picked, are⟩ := grid.pickVictims_of_fraction source share
    obtain ⟨sent, killed, addresses⟩ :=
      exists_sent sends are.onGrid are.nodup (decode_death sends)
    refine ⟨victims, sent, picked, ?_, are, addresses, ?_⟩
    · rw [killRandom, picked, ok_bind, killed]
    · exact fun services link arrivals serves => addresses.deliverAll serves link

/-- Half of four cells is struck, and what is not a number strikes nobody. -/
theorem killRandom_exact_fourCells :
    let probe : Probe := ⟨controllerId, ⟨.loopback, 40000, 0⟩, .up⟩
    let services := (Launcher.fresh .fourCells 250).services
    probe.killRandom .fourCells .inOrder ⟨0x7FF8000000000000⟩ =
        .error (.invalidFraction ⟨0x7FF8000000000000⟩) ∧
      ∃ victims sent, probe.killRandom .fourCells .inOrder ⟨0x3FE0000000000000⟩ = .ok sent ∧
        victims.Perm [⟨0, 0⟩, ⟨1, 0⟩] ∧
          (services.deliverAll .up (sent.map (·.delivery)).reverse).2 =
            services.fail .fourCells victims := by
  intro probe services
  have refused : ¬ (⟨0x7FF8000000000000⟩ : Binary64).IsFraction :=
    mt Binary64.isShare_iff.mpr (by decide)
  have half : (⟨0x3FE0000000000000⟩ : Binary64).IsFraction := Binary64.isShare_iff.mp (by decide)
  have sends : ∃ bytes, probe.link.transmit probe.death = .ok bytes :=
    ⟨_, Link.transmit_up (Message.fits_die (by decide))⟩
  obtain ⟨victims, sent, picked, killed, -, -, strikes⟩ :=
    (killRandom_exact probe .fourCells .inOrder ⟨0x3FE0000000000000⟩).2 half sends
  have sample : Grid.fourCells.pickVictims .inOrder ⟨0x3FE0000000000000⟩ =
      .ok (Coord.sort [⟨0, 0⟩, ⟨1, 0⟩]) := rfl
  obtain rfl := Except.ok.inj (sample.symm.trans picked)
  refine ⟨((killRandom_exact probe .fourCells .inOrder _).1 refused).1, _, sent, killed,
    Coord.perm_sort _, strikes services .up _ (Services.serves_fresh .fourCells 250) fun _ => ?_⟩
  exact List.mem_reverse

end Probe
end GridDiffusion
