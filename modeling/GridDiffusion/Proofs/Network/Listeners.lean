import GridDiffusion.Proofs.Grid.Addressing
import GridDiffusion.Proofs.Network.Round
/-! Who listens where: in a network in use there is one node for each cell, known by the address of
its own cell, and whatever is in flight goes between the controller and such nodes. -/
namespace GridDiffusion.Network

variable {network before after : Network} {cell : Coord} {address : Address} {message : Message}

def listener? (network : Network) (address : Address) : Option Node :=
  network.nodes.toList.find? (·.address = address)

/-- Every cell has one node, which is found at the cell's address, and no step with a cell of the
grid is refused. -/
structure Serves (network : Network) : Prop where
  /-- The nodes are those of the cells, row by row. -/
  cells : network.nodes.toList.map (·.coord) = network.grid.coords
  keyed : ∀ node ∈ network.nodes.toList, network.grid.addressOf node.coord = .ok node.address
  distinct : (network.nodes.toList.map (·.address)).Nodup
  /-- Routing by cells is routing by addresses. -/
  routed : ∀ address, address.zone = network.grid.base.zone →
    network.listener? address = (network.grid.coordAt? address).bind network.node?
  found : ∀ cell, network.grid.contains cell = true →
    ∃ node, network.node? cell = some node ∧ node.coord = cell ∧
      network.grid.addressOf cell = .ok node.address ∧ network.listener? node.address = some node
  send : ∀ cell message, network.grid.contains cell = true →
    ∃ sent, network.send cell message = .ok sent
  cut : ∀ left right, network.grid.contains left = true → network.grid.contains right = true →
    ∃ next, network.cutLink left right = .ok next
  ping : ∀ cell, network.grid.contains cell = true → ∃ answer, network.ping cell = .ok answer

theorem exists_node (onGrid : network.grid.contains cell = true) :
    ∃ node, network.node? cell = some node := by
  cases found : network.node? cell with
  | some node => exact ⟨node, rfl⟩
  | none => cases (node?_eq_none_iff.mp found).symm.trans onGrid

namespace WellFormed

theorem map_coord_nodes (sound : network.WellFormed) :
    network.nodes.toList.map (·.coord) = network.grid.coords := by
  have each (place : Fin network.grid.cellCount) :
      (network.nodes.get place).coord = network.grid.cellOf place :=
    (sound.livesAt (network.node?_of_place (network.grid.place?_cellAt place))).coord
  rw [toList_nodes, List.map_map, Grid.coords_eq_map_range, ← List.map_coe_finRange_eq_range,
    List.map_map]
  exact List.map_congr_left fun place _ => each place

theorem addressOf_coord (sound : network.WellFormed) {node : Node}
    (listed : node ∈ network.nodes.toList) :
    network.node? node.coord = some node ∧
      network.grid.addressOf node.coord = .ok node.address := by
  obtain ⟨cell, found⟩ := mem_nodes_iff.mp listed
  have lives := sound.livesAt found
  rw [lives.coord]
  exact ⟨found, lives.address⟩

theorem nodup_addresses (sound : network.WellFormed) :
    (network.nodes.toList.map (·.address)).Nodup := by
  have cells := network.grid.nodup_coords
  rw [← sound.map_coord_nodes, List.nodup_iff_pairwise_ne, List.pairwise_map] at cells
  rw [List.nodup_iff_pairwise_ne, List.pairwise_map]
  refine cells.imp_of_mem fun {first second} listed otherListed apart same => ?_
  have own := (sound.addressOf_coord listed).2
  have other := (sound.addressOf_coord otherListed).2
  exact apart (Grid.addressOf_injective own (same ▸ other))

theorem listener?_eq (sound : network.WellFormed) (zone : address.zone = network.grid.base.zone) :
    network.listener? address = (network.grid.coordAt? address).bind network.node? := by
  rw [listener?]
  cases search : network.nodes.toList.find? (·.address = address) with
  | none =>
    symm
    rw [Option.bind_eq_none_iff]
    intro cell found
    apply Option.eq_none_iff_forall_ne_some.mpr
    intro node there
    have own := (Grid.coordAt?_eq_some_iff_of_zone zone).mp found
    have same : node.address = address :=
      Except.ok.inj ((sound.livesAt there).address.symm.trans own)
    have passed := List.find?_eq_none.mp search node (mem_nodes_iff.mpr ⟨cell, there⟩)
    exact passed (decide_eq_true same)
  | some node =>
    have listed := List.mem_of_find?_eq_some search
    have same : node.address = address := by simpa using List.find?_some search
    obtain ⟨there, own⟩ := sound.addressOf_coord listed
    rw [Grid.coordAt?_addressOf (same ▸ own), Option.bind_some, there]

theorem serves (sound : network.WellFormed) : network.Serves where
  cells := sound.map_coord_nodes
  keyed _ listed := (sound.addressOf_coord listed).2
  distinct := sound.nodup_addresses
  routed _ zone := sound.listener?_eq zone
  found cell onGrid := by
    obtain ⟨node, there⟩ := exists_node onGrid
    have lives := sound.livesAt there
    have zone : node.address.zone = network.grid.base.zone := by
      rw [(Grid.addressOf_eq_ok_iff.mp lives.address).2]
    refine ⟨node, there, lives.coord, lives.address, ?_⟩
    rw [sound.listener?_eq zone, Grid.coordAt?_addressOf lives.address, Option.bind_some, there]
  send _ message onGrid := by
    obtain ⟨_, found⟩ := Grid.exists_addressOf_iff.mpr onGrid
    exact ⟨_, send_eq_ok found message⟩
  cut _ _ onGrid otherOnGrid := by
    obtain ⟨_, found⟩ := Grid.exists_addressOf_iff.mpr onGrid
    obtain ⟨_, otherFound⟩ := Grid.exists_addressOf_iff.mpr otherOnGrid
    exact ⟨_, cutLink_eq_ok found otherFound⟩
  ping _ onGrid := by
    obtain ⟨_, found⟩ := Grid.exists_addressOf_iff.mpr onGrid
    obtain ⟨_, _, _, -, pinged⟩ := ping_eq_ok found
    exact ⟨_, pinged⟩

end WellFormed

def HasListener (network : Network) (address : Address) : Prop :=
  address = network.controller ∨ ∃ cell, network.grid.addressOf cell = .ok address

/-- Whether all that is in flight goes from one listener to another. -/
def IsAddressed (network : Network) : Prop :=
  ∀ packet ∈ network.inFlight,
    network.HasListener packet.source ∧ network.HasListener packet.target

theorem isAddressed_of_nil (empty : network.inFlight = []) : network.IsAddressed := by
  rw [IsAddressed, empty]
  exact List.forall_mem_nil _

theorem HasListener.of_sameSetting (same : SameSetting before after)
    (listened : before.HasListener address) : after.HasListener address := by
  rw [HasListener, same.grid, same.controller]
  exact listened

theorem IsAddressed.of_sameSetting (addressed : before.IsAddressed) (same : SameSetting before after)
    (queue : after.inFlight = before.inFlight) : after.IsAddressed := by
  intro packet member
  obtain ⟨source, target⟩ := addressed packet (queue ▸ member)
  exact ⟨source.of_sameSetting same, target.of_sameSetting same⟩

theorem IsAddressed.replies (addressed : network.IsAddressed) {packet : Packet}
    (set : packet ∈ network.replies) :
    network.HasListener packet.source ∧ network.HasListener packet.target := by
  obtain ⟨asked, member, source, target⟩ := back_of_mem_deliverEach set
  obtain ⟨from_, to_⟩ := addressed asked member
  exact ⟨source ▸ to_, target ▸ from_⟩

theorem IsAddressed.hasListener (addressed : network.IsAddressed) {packet : Packet}
    (taken : packet ∈ network.inFlight ++ network.replies) : network.HasListener packet.target := by
  rcases List.mem_append.mp taken with flying | set
  · exact (addressed packet flying).2
  · exact (addressed.replies set).2

theorem IsAddressed.send (addressed : network.IsAddressed) (cell : Coord) (message : Message) :
    ((network.send cell message).toOption.getD network).IsAddressed := by
  rcases network.send_cases cell message with ⟨target, found, sent⟩ | ⟨cause, refused⟩
  · rw [sent]
    intro packet member
    rcases List.mem_append.mp member with before | now
    · exact addressed packet before
    · obtain rfl := List.mem_singleton.mp now
      exact ⟨.inl rfl, .inr ⟨cell, found⟩⟩
  · rw [refused]
    exact addressed

theorem IsAddressed.tickAll (addressed : network.IsAddressed) (sound : network.WellFormed) :
    network.tickAll.IsAddressed := by
  intro packet member
  rcases List.mem_append.mp member with before | ticked
  · exact addressed packet before
  · obtain ⟨source, node, found, made⟩ := mem_sent_iff.mp ticked
    have lives := sound.livesAt found
    obtain ⟨id, item, -, near, around, rfl⟩ := lives.mem_packets_iff.mp made
    have inside := (Grid.mem_mooreNeighbors.mp around).1
    exact ⟨.inr ⟨source, lives.address⟩, .inr ⟨near, Grid.addressOf_neighborAt inside⟩⟩

theorem IsAddressed.perform (addressed : network.IsAddressed) (action : NetworkAction) :
    (network.perform action).IsAddressed := by
  cases action with
  | send cell message => exact addressed.send cell message
  | inject cell id content energy => exact addressed.send cell _
  | kill cell => exact addressed.send cell _
  | localInject cell | localKill cell | revive cell =>
    rw [Network.perform]
    exact addressed.of_sameSetting (network.sameSetting_updateNode cell _)
      (network.inFlight_updateNode cell _)
  | cut left right =>
    rcases network.cutLink_cases left right with ⟨_, _, -, -, cut⟩ | ⟨cause, refused⟩
    · rw [Network.perform, cut]
      exact addressed
    · rw [Network.perform, refused]
      exact addressed
  | flush => exact isAddressed_of_nil network.inFlight_deliverAll
  | ping cell =>
    rcases network.ping_cases cell with ⟨sent, _, _, -, pinged⟩ | ⟨_, -, refused⟩
    · rw [Network.perform, pinged]
      exact isAddressed_of_nil sent.inFlight_deliverAll
    · rw [Network.perform, refused]
      exact addressed
  | round => exact isAddressed_of_nil network.inFlight_runRound

theorem Reachable.isAddressed (reached : network.Reachable) : network.IsAddressed := by
  induction reached with
  | create made =>
    obtain ⟨-, grid, -, rfl⟩ := create_eq_ok_iff.mp made
    exact isAddressed_of_nil rfl
  | perform _ action addressed => exact addressed.perform action

end GridDiffusion.Network
