import Mathlib.Algebra.BigOperators.Group.List.Basic
import GridDiffusion.Proofs.Network.Count
import GridDiffusion.Proofs.Network.Diffusion
import GridDiffusion.Proofs.Network.Peak
/-! The traffic of one item: in every round each cell that holds it sends it to all cells around, so
a cell sends it that often for each unit of energy that its distance from the origin leaves. -/
namespace GridDiffusion

section Totals
variable {grid : Grid} {first second : Coord → Nat}

def Grid.total (grid : Grid) (amount : Coord → Nat) : Nat := (grid.cells.toList.map amount).sum

theorem Grid.total_congr (same : ∀ cell, grid.contains cell = true → first cell = second cell) :
    grid.total first = grid.total second :=
  congrArg List.sum (List.map_congr_left fun cell member => same cell (Grid.mem_cells_iff.mp member))

theorem Grid.total_add (grid : Grid) (first second : Coord → Nat) :
    grid.total (fun cell => first cell + second cell) = grid.total first + grid.total second :=
  List.sum_map_add

end Totals

def Grid.packet (grid : Grid) (source target : Coord) (parcel : Parcel) : Packet :=
  ⟨(grid.neighborAt source).address, (grid.neighborAt target).address,
    .information source.peerId parcel⟩

/-- A node that holds no more than one item sends it once to each cell around. -/
theorem Node.countP_packets {grid : Grid} {cell : Coord} {node : Node} {id : String}
    (same : SamePlace (fresh grid cell) node) (empty : node.EmptyIfDead)
    (only : ∀ other, other ≠ id → node.store.get? other = none) (counted : Packet → Bool) :
    node.packets.countP counted = ((node.store.get? id).map fun item =>
      (grid.mooreNeighbors cell).countP fun near =>
        counted (grid.packet cell near (item.parcel id))).getD 0 := by
  have entries := SortedMap.entries_of_only only
  have spread : node.tick.1 = node.spread := by
    rcases Bool.eq_false_or_eq_true node.alive with alive | dead
    · rw [tick, if_pos alive]
    · rw [tick_of_dead dead, spread, empty dead]
      rfl
  have around : node.neighbors.values.Perm ((grid.mooreNeighbors cell).map grid.neighborAt) := by
    rw [same.neighbors]
    exact perm_neighbors_fresh grid cell
  have address : node.address = (grid.neighborAt cell).address := same.address
  have id_ : node.id = cell.peerId := same.id
  rw [packets, spread, Node.spread, entries]
  cases node.store.get? id with
  | none => rfl
  | some item =>
    have once : ((some item).map (id, ·)).toList = [(id, item)] := rfl
    rw [once, List.flatMap_singleton, List.countP_map, List.countP_map, around.countP_eq,
      List.countP_map, Option.map_some, Option.getD_some]
    apply List.countP_congr
    intro near _
    simp only [Function.comp_apply, Grid.packet, address, spreadMessage, id_, Item.parcel]

namespace Network
variable {network start after : Network} {origin cell near : Coord} {id content : String}
  {total spent : Nat}

/-- Where one item is all that is held, each cell that holds it sends it once to each cell around.
-/
theorem countP_sent (reached : network.Reachable)
    (only : ∀ cell other, other ≠ id → network.held? cell other = none) (counted : Packet → Bool) :
    network.sent.countP counted = network.grid.total fun cell =>
      ((network.held? cell id).map fun item => (network.grid.mooreNeighbors cell).countP fun near =>
        counted (network.grid.packet cell near (item.parcel id))).getD 0 := by
  rw [sent, flatMap_nodes, List.countP_flatMap]
  apply Grid.total_congr
  intro cell onGrid
  cases found : network.node? cell with
  | none => cases (node?_eq_none_iff.mp found).symm.trans onGrid
  | some node =>
    have held (other : String) : network.held? cell other = node.store.get? other := by
      rw [held?, found, Option.bind_some]
    have alone (other : String) (apart : other ≠ id) : node.store.get? other = none :=
      (held other).symm.trans (only cell other apart)
    have count := Node.countP_packets (reached.samePlace_fresh found)
      (reached.wellFormed.livesAt found).emptyIfDead alone counted
    rw [Function.comp_apply, found, held]
    exact count

/-- What a cell sends to one around it is lost if and only if the link between the two is cut. -/
theorem loses_packet (onGrid : network.grid.contains cell = true)
    (around : near ∈ network.grid.mooreNeighbors cell) {parcel : Parcel}
    (fits : (Message.information cell.peerId parcel).Fits) :
    network.loses (network.grid.packet cell near parcel) = network.isCut cell near := by
  have source := Grid.addressOf_neighborAt onGrid
  have target := Grid.addressOf_neighborAt (Grid.mem_mooreNeighbors.mp around).1
  have sent : (Message.information cell.peerId parcel).overWire =
      .ok (.information cell.peerId parcel) := by
    rw [Message.overWire_information, if_pos fits]
  have arrives := Grid.coordAt?_addressOf target
  simp [loses, isCut, Grid.packet, source, target, sent, arrives, Except.toOption]

/-- For how many of some rounds after an injection a cell holds the item, if the energy lasts. -/
noncomputable def holdingRounds (network : Network) (origin cell : Coord) (rounds : Nat) : Nat :=
  if network.linkGraph.edist origin cell < rounds then rounds - network.linkGraph.dist origin cell
  else 0

theorem holdingRounds_zero (network : Network) (origin cell : Coord) :
    network.holdingRounds origin cell 0 = 0 := by
  rw [holdingRounds, Nat.zero_sub, ite_self]

theorem holdingRounds_succ (network : Network) (origin cell : Coord) (rounds : Nat) :
    network.holdingRounds origin cell (rounds + 1) = network.holdingRounds origin cell rounds +
      if network.linkGraph.edist origin cell ≤ rounds then 1 else 0 := by
  unfold holdingRounds SimpleGraph.dist
  cases network.linkGraph.edist origin cell with
  | top => simp
  | coe distance =>
    simp only [ENat.toNat_natCast, ENat.natCast_lt_natCast, ENat.natCast_le_natCast]
    split <;> split <;> split <;> omega

/-- The sum of a number for each cell, taken as often as the cell holds the item. -/
noncomputable def traffic (network : Network) (origin : Coord) (rounds : Nat)
    (amount : Coord → Nat) : Nat :=
  network.grid.total fun cell => network.holdingRounds origin cell rounds * amount cell

theorem traffic_zero (network : Network) (origin : Coord) (amount : Coord → Nat) :
    network.traffic origin 0 amount = 0 := by
  simp [traffic, holdingRounds_zero, Grid.total]

theorem traffic_succ (network : Network) (origin : Coord) (rounds : Nat) (amount : Coord → Nat) :
    network.traffic origin (rounds + 1) amount = network.traffic origin rounds amount +
      network.grid.total fun cell =>
        if network.linkGraph.edist origin cell ≤ rounds then amount cell else 0 := by
  rw [traffic, traffic, ← Grid.total_add]
  apply Grid.total_congr
  intro cell _
  rw [holdingRounds_succ, Nat.add_mul, ite_mul, Nat.one_mul, Nat.zero_mul]

/-- In two rounds the origin sends twice, and the cells linked to it send once. -/
theorem WellFormed.traffic_two (sound : network.WellFormed) (origin : Coord) (amount : Coord → Nat) :
    network.traffic origin 2 amount =
      (network.grid.total fun cell => if origin = cell then amount cell else 0) +
        network.grid.total fun cell =>
          if (network.isAlive origin = true ∧ network.isAlive cell = true ∧
            origin.areNeighbors cell = true ∧ network.isCut origin cell = false) ∨ origin = cell
          then amount cell else 0 := by
  rw [traffic_succ, traffic_succ, traffic_zero, Nat.zero_add]
  congr 1
  · exact Grid.total_congr fun cell _ =>
      if_congr (nonpos_iff_eq_zero.trans SimpleGraph.edist_eq_zero_iff) rfl rfl
  · exact Grid.total_congr fun cell _ =>
      if_congr (SimpleGraph.edist_le_one_iff_adj_or_eq.trans (or_congr_left sound.adj_iff)) rfl rfl

/-- The network some rounds after an injection into a quiet one: the item is all that is held, and
what was delivered and lost since is the traffic of the cells that search has reached. -/
structure Carried (start after : Network) (origin : Coord) (id content : String)
    (total spent : Nat) : Prop where
  reached : after.Reachable
  diffused : Diffused start after origin id content total spent
  only (cell : Coord) (other : String) : other ≠ id → after.held? cell other = none
  lost : after.lost = start.lost +
    start.traffic origin spent fun cell => (start.grid.mooreNeighbors cell).countP (start.isCut cell)
  all : after.delivered + after.lost = start.delivered + start.lost +
    start.traffic origin spent fun cell => (start.grid.mooreNeighbors cell).length

theorem Carried.only_runRound (state : Carried start after origin id content total spent)
    (cell : Coord) (other : String) (apart : other ≠ id) : after.runRound.held? cell other = none := by
  apply Option.eq_none_iff_forall_not_mem.mpr
  intro copy held
  rcases held_of_runRound state.reached.wellFormed held with ⟨item, before, -⟩ |
    ⟨packet, member, -⟩ | ⟨source, passed⟩
  · cases (state.only cell other apart).symm.trans before
  · rw [state.diffused.quiet] at member
    cases member
  · obtain ⟨-, -, item, before, -⟩ := passed?_eq_some_iff.mp passed
    cases (state.only source other apart).symm.trans before

/-- While energy is left, the cells that search has reached are those that send. -/
theorem Carried.countP_sent (state : Carried start after origin id content total spent)
    (left : spent < total) {counted : Packet → Bool}
    (weight : Coord → Coord → Bool)
    (same : ∀ {cell near item}, near ∈ start.grid.mooreNeighbors cell →
      after.held? cell id = some item →
        counted (start.grid.packet cell near (item.parcel id)) = weight cell near) :
    after.sent.countP counted = start.grid.total fun cell =>
      if start.linkGraph.edist origin cell ≤ spent then
        (start.grid.mooreNeighbors cell).countP (weight cell)
      else 0 := by
  rw [Network.countP_sent state.reached state.only, state.diffused.setting.grid]
  apply Grid.total_congr
  intro cell _
  cases held : after.held? cell id with
  | none =>
    have beyond : ¬ start.linkGraph.edist origin cell ≤ spent := by
      intro within
      obtain ⟨item, holds⟩ := state.diffused.filled left within
      cases held.symm.trans holds
    rw [if_neg beyond]
    rfl
  | some item =>
    have tree := state.diffused.copy held
    have within : start.linkGraph.edist origin cell ≤ spent :=
      tree.hops ▸ ENat.natCast_le_natCast.mpr tree.recent
    rw [if_pos within, Option.map_some, Option.getD_some]
    exact List.countP_congr fun near around => by rw [same around held]

/-- One round: each cell that search has reached sends the item to all cells around. -/
theorem Carried.runRound (state : Carried start after origin id content total spent)
    (ordered : start.WellFormed) (bounded : total ≤ 2 ^ 63 - 1)
    (fits : start.FitsOnItsWay origin id content total) (left : spent < total) :
    Carried start after.runRound origin id content total (spent + 1) := by
  have sound := state.reached.wellFormed
  have setting := state.diffused.setting
  obtain ⟨lost, all⟩ := counts_runRound sound state.diffused.quiet
  have losing : after.sent.countP after.loses = _ :=
    state.countP_sent left start.isCut fun {cell near item} around held => by
      have onGrid := contains_of_held? held
      rw [← isCut_of_sameSetting setting]
      exact setting.grid ▸ loses_packet onGrid (setting.grid ▸ around)
        (state.diffused.fits_parcel bounded fits held)
  have sending : after.sent.countP (fun _ => true) = _ :=
    state.countP_sent left (fun _ _ => true) fun _ _ => rfl
  simp only [List.countP_true] at sending
  exact
    { reached := state.reached.perform .round
      diffused := state.diffused.runRound ordered bounded fits
      only := state.only_runRound
      lost := by rw [lost, losing, state.lost, traffic_succ, Nat.add_assoc]
      all := by rw [all, sending, state.all, traffic_succ, Nat.add_assoc] }

theorem carried_localInject (reached : start.Reachable) (flying : start.inFlight = [])
    (quiet : start.isQuiet = true) (alive : start.isAlive origin = true) {energy : UInt64}
    (charged : energy ≠ 0) (content : String) :
    Carried start (start.perform (.localInject origin id content energy)) origin id content
      energy.toNat 0 := by
  have unheld := isQuiet_iff.mp quiet
  obtain ⟨item, -, -, -, -, held, -⟩ := perform_localInject alive (unheld origin id) charged content
  obtain ⟨lost, delivered⟩ := start.counts_updateNode origin fun node =>
    (node.inject id content energy).toOption.getD node
  exact
    { reached := reached.perform _
      diffused := diffused_localInject reached.wellFormed flying alive (fun cell => unheld cell id)
        charged content
      only := fun cell other apart =>
        (held cell other).trans ((if_neg fun here => apart here.2).trans (unheld cell other))
      lost := lost.trans (by rw [traffic_zero, Nat.add_zero])
      all := by rw [traffic_zero, Nat.add_zero, perform, lost, delivered] }

theorem Carried.runRounds (state : Carried start after origin id content total 0)
    (ordered : start.WellFormed) (bounded : total ≤ 2 ^ 63 - 1)
    (fits : start.FitsOnItsWay origin id content total) {rounds : Nat} (within : rounds ≤ total) :
    Carried start (after.runRounds rounds) origin id content total rounds := by
  induction rounds with
  | zero => exact state
  | succ rounds ih =>
    rw [runRounds_succ]
    exact (ih (Nat.le_of_succ_le within)).runRound ordered bounded fits within

theorem Carried.isQuiet (state : Carried start after origin id content total total) :
    after.isQuiet = true := by
  apply isQuiet_iff.mpr
  intro cell other
  by_cases same : other = id
  · apply Option.eq_none_iff_forall_not_mem.mpr
    intro item held
    have energy := (state.diffused.copy (same ▸ held)).energy
    have positive := item.energy_pos
    omega
  · exact state.only cell other same

theorem sent_of_isQuiet (sound : network.WellFormed) (quiet : network.isQuiet = true) :
    network.sent = [] := by
  apply List.eq_nil_iff_forall_not_mem.mpr
  intro packet member
  obtain ⟨cell, node, found, made⟩ := mem_sent_iff.mp member
  obtain ⟨id, item, stored, -⟩ := (sound.livesAt found).mem_packets_iff.mp made
  have held : network.held? cell id = some item := by rw [held?, found, Option.bind_some, stored]
  cases (isQuiet_iff.mp quiet cell id).symm.trans held

/-- A quiet network stays quiet, and nothing is sent in it. -/
theorem counts_runRounds_of_isQuiet (sound : network.WellFormed) (flying : network.inFlight = [])
    (quiet : network.isQuiet = true) (rounds : Nat) :
    (network.runRounds rounds).delivered = network.delivered ∧
      (network.runRounds rounds).lost = network.lost := by
  induction rounds generalizing network with
  | zero => exact ⟨rfl, rfl⟩
  | succ rounds ih =>
    obtain ⟨lost, all⟩ := counts_runRound sound flying
    rw [sent_of_isQuiet sound quiet, List.countP_nil, Nat.add_zero] at lost
    rw [sent_of_isQuiet sound quiet, List.length_nil, Nat.add_zero, lost, Nat.add_right_cancel_iff]
      at all
    have still : network.runRound.isQuiet = true := by
      rw [isQuiet_iff_peak, peak_runRound sound flying, isQuiet_iff_peak.mp quiet]
    obtain ⟨laterDelivered, laterLost⟩ := ih sound.runRound network.inFlight_runRound still
    exact ⟨laterDelivered.trans all, laterLost.trans lost⟩

/-- The traffic of one item. In the rounds that its energy lasts, each cell nearer to the origin
than the energy sends the item to all cells around, once for each unit of energy that is left beyond
its distance. All of it is delivered but what is sent over cut links, and afterwards nothing is
sent. -/
theorem counts_of_localInject (reached : network.Reachable) (flying : network.inFlight = [])
    (quiet : network.isQuiet = true) (alive : network.isAlive origin = true) {energy : UInt64}
    (positive : 1 ≤ energy.toNat) (bounded : energy.toNat ≤ 2 ^ 63 - 1)
    (fits : network.FitsOnItsWay origin id content energy.toNat) :
    let ran := (network.perform (.localInject origin id content energy)).runRounds energy.toNat
    ran.delivered + ran.lost = network.delivered + network.lost +
        network.traffic origin energy.toNat (fun cell => (network.grid.mooreNeighbors cell).length) ∧
      ran.lost = network.lost + network.traffic origin energy.toNat (fun cell =>
        (network.grid.mooreNeighbors cell).countP (network.isCut cell)) ∧
      ∀ more, (ran.runRounds more).delivered = ran.delivered ∧
        (ran.runRounds more).lost = ran.lost := by
  intro ran
  have charged := ne_zero_of_one_le_toNat positive
  have state : Carried network ran origin id content energy.toNat energy.toNat :=
    (carried_localInject reached flying quiet alive charged content).runRounds reached.wellFormed
      bounded fits (Nat.le_refl _)
  exact ⟨state.all, state.lost, fun more =>
    counts_runRounds_of_isQuiet state.reached.wellFormed state.diffused.quiet state.isQuiet more⟩

/-- Two units of energy in a corner of a grid of four cells, with the link to the opposite corner
cut: the origin sends twice to three cells, two of them in vain, and each of two others sends once.
-/
theorem counts_of_localInject_corner : ∃ network : Network, network.Reachable ∧
    network.inFlight = [] ∧ network.isQuiet = true ∧
      ∀ more, (((network.perform (.localInject ⟨0, 0⟩ "x" "" 2)).runRounds 2).runRounds
        more).delivered = 10 ∧
        (((network.perform (.localInject ⟨0, 0⟩ "x" "" 2)).runRounds 2).runRounds more).lost = 2 := by
  let network := (fresh .fourCells).perform (.cut ⟨0, 0⟩ ⟨1, 1⟩)
  have reached : network.Reachable := (reachable_fresh rfl (by decide)).perform _
  have flying : network.inFlight = [] := by decide +kernel
  have quiet : network.isQuiet = true := by decide +kernel
  have alive : network.isAlive ⟨0, 0⟩ = true := by decide +kernel
  have short : "x".utf8ByteSize + "".utf8ByteSize ≤ 10000 := by decide
  have fits : network.FitsOnItsWay ⟨0, 0⟩ "x" "" (2 : UInt64).toNat :=
    fun cell _ _ _ _ _ _ => Message.fits_of_cell cell short
  obtain ⟨all, cut, silent⟩ := counts_of_localInject reached flying quiet alive
    (by decide : 1 ≤ (2 : UInt64).toNat) (by decide) fits
  have sending : network.traffic ⟨0, 0⟩ (2 : UInt64).toNat (fun cell =>
      (network.grid.mooreNeighbors cell).length) = 12 :=
    (reached.wellFormed.traffic_two _ _).trans (by decide +kernel)
  have losing : network.traffic ⟨0, 0⟩ (2 : UInt64).toNat (fun cell =>
      (network.grid.mooreNeighbors cell).countP (network.isCut cell)) = 2 :=
    (reached.wellFormed.traffic_two _ _).trans (by decide +kernel)
  have before : network.delivered = 0 ∧ network.lost = 0 := by decide +kernel
  rw [sending, before.1, before.2] at all
  rw [losing, before.2] at cut
  refine ⟨network, reached, flying, quiet, fun more => ?_⟩
  obtain ⟨delivered, lost⟩ := silent more
  exact ⟨delivered.trans (Nat.add_right_cancel (cut ▸ all)), lost.trans cut⟩

end Network
end GridDiffusion
