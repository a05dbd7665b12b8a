import GridDiffusion.Proofs.Grid.Addressing
import GridDiffusion.Proofs.Node.Log
import GridDiffusion.Service.Launcher
/-! Launching a grid: all its nodes are in service or none is, each is found at its cell whatever
happens to it, and a restart is the launch over again. -/
namespace GridDiffusion

namespace Sockets
variable {sockets : Sockets} {address : Address}

def take (sockets : Sockets) (address : Address) : Sockets :=
  { sockets with inUse := address :: sockets.inUse }

theorem isFree_iff : sockets.isFree address = true ↔ address ∉ sockets.inUse := by
  simp [isFree]

theorem bind_of_free (own : sockets.isOwn address.host = true) (port : address.port ≠ 0)
    (free : address ∉ sockets.inUse) : sockets.bind address = .ok (address, sockets.take address) := by
  have granted : sockets.granted? address = some address := by
    rw [granted?, if_neg port, if_pos (isFree_iff.mpr free)]
  simp [bind, own, granted, take]

theorem bind_of_taken (own : sockets.isOwn address.host = true) (port : address.port ≠ 0)
    (taken : address ∈ sockets.inUse) : sockets.bind address = .error .addressInUse := by
  have granted : sockets.granted? address = none := by
    rw [granted?, if_neg port, if_neg fun free => isFree_iff.mp free taken]
  simp [bind, own, granted]

/-- To close a socket that was bound at a free address is to undo it. -/
theorem release_take (free : address ∉ sockets.inUse) :
    (sockets.take address).release address = sockets := by
  have others : sockets.inUse.filter (· ≠ address) = sockets.inUse :=
    List.filter_eq_self.mpr fun other member => decide_eq_true fun same => free (same ▸ member)
  rw [release, take, List.filter_cons_of_neg (by simp), others]

def takeAll (sockets : Sockets) (addresses : List Address) : Sockets :=
  { sockets with inUse := addresses.reverse ++ sockets.inUse }

theorem takeAll_take (sockets : Sockets) (address : Address) (addresses : List Address) :
    (sockets.take address).takeAll addresses = sockets.takeAll (address :: addresses) := by
  simp [take, takeAll]

def without (sockets : Sockets) (addresses : List Address) : Sockets :=
  { sockets with inUse := sockets.inUse.filter (· ∉ addresses) }

theorem without_takeAll {addresses : List Address}
    (free : ∀ address ∈ addresses, address ∉ sockets.inUse) :
    (sockets.takeAll addresses).without addresses = sockets := by
  have own : addresses.reverse.filter (· ∉ addresses) = [] := by
    rw [List.filter_eq_nil_iff]
    intro address member
    simpa using member
  have others : sockets.inUse.filter (· ∉ addresses) = sockets.inUse :=
    List.filter_eq_self.mpr fun other member => decide_eq_true fun own => free other own member
  rw [without, takeAll, List.filter_append, own, others, List.nil_append]

theorem release_without (sockets : Sockets) (address : Address) (addresses : List Address) :
    (sockets.release address).without addresses = sockets.without (address :: addresses) := by
  simp only [without, release, List.filter_filter]
  congr 1
  exact List.filter_congr fun other _ => by simp [Bool.and_comm]

theorem without_release {addresses : List Address} (member : address ∈ addresses) :
    (sockets.release address).without addresses = sockets.without addresses := by
  rw [release_without]
  simp only [without]
  congr 1
  refine List.filter_congr fun other _ => decide_eq_decide.mpr (not_congr ?_)
  exact ⟨fun listed => (List.mem_cons.mp listed).elim (fun same => same ▸ member) id,
    List.mem_cons_of_mem _⟩

theorem foldl_release (sockets : Sockets) (addresses : List Address) :
    addresses.foldl release sockets = sockets.without addresses := by
  induction addresses generalizing sockets with
  | nil => simp [without]
  | cons address rest ih => rw [List.foldl_cons, ih, release_without]

end Sockets

namespace NodeService
variable {grid : Grid} {cell : Coord} {tickMs : UInt64} {sockets : Sockets} {service : NodeService}

def fresh (grid : Grid) (cell : Coord) : NodeService where
  node := Node.fresh grid cell
  address := (grid.neighborAt cell).address
  adminSocket := none
  isStopped := false

/-- A service of a cell's node, bound to the cell's address. -/
structure SitsAt (grid : Grid) (cell : Coord) (service : NodeService) : Prop where
  node : service.node.LivesAt grid cell
  address : grid.addressOf cell = .ok service.address

theorem sitsAt_fresh (onGrid : grid.contains cell = true) : (fresh grid cell).SitsAt grid cell :=
  ⟨Node.livesAt_fresh onGrid, Grid.addressOf_neighborAt onGrid⟩

theorem SitsAt.receive (sits : service.SitsAt grid cell) (datagram : Datagram) :
    (service.receive datagram).2.SitsAt grid cell := by
  unfold NodeService.receive
  split
  · exact sits
  split
  · exact sits
  · exact ⟨sits.node.handle _ _, sits.address⟩

theorem SitsAt.tick (sits : service.SitsAt grid cell) : service.tick.2.SitsAt grid cell := by
  unfold NodeService.tick
  split
  · exact sits
  · exact ⟨sits.node.tick, sits.address⟩

theorem SitsAt.stop (sits : service.SitsAt grid cell) : service.stop.SitsAt grid cell :=
  ⟨sits.node, sits.address⟩

theorem SitsAt.execute (sits : service.SitsAt grid cell) (command : AdminCommand) :
    (service.execute command).2.SitsAt grid cell := by
  cases command with
  | status | ping => exact sits
  | shutdown => exact sits.stop
  | kill => exact ⟨sits.node.kill, sits.address⟩
  | inject id content energy =>
    unfold NodeService.execute
    dsimp only
    split
    next node taken => exact ⟨sits.node.inject taken, sits.address⟩
    · exact sits
  | revive =>
    have revived := sits.node.revive
    unfold NodeService.execute
    dsimp only
    split
    next node found =>
      rw [found] at revived
      exact ⟨revived, sits.address⟩
    · exact sits

end NodeService

namespace Launcher
variable {grid : Grid} {cell : Coord} {cells : List Coord} {tickMs : UInt64} {sockets : Sockets}

/-- Where a launch on a machine fails for no other cause than a port that is taken: the machine has
the grid's host, the ports are given ones, and the nodes tick. -/
structure Suits (grid : Grid) (tickMs : UInt64) (sockets : Sockets) : Prop where
  own : sockets.isOwn grid.base.host = true
  port : grid.base.port ≠ 0
  ticks : tickMs ≠ 0

theorem Suits.take (suits : Suits grid tickMs sockets) (address : Address) :
    Suits grid tickMs (sockets.take address) := ⟨suits.own, suits.port, suits.ticks⟩

theorem port_ne_zero (port : grid.base.port ≠ 0) (onGrid : grid.contains cell = true) :
    (grid.neighborAt cell).address.port ≠ 0 := by
  have above := Grid.toNat_port (Grid.addressOf_neighborAt onGrid)
  have base : grid.base.port.toNat ≠ 0 := fun zero => port (UInt16.toNat_inj.mp zero)
  intro zero
  rw [zero, UInt16.toNat_zero] at above
  omega

/-- The defaults of a cell with another time between ticks. -/
theorem exists_cellConfig (ticks : tickMs ≠ 0) (onGrid : grid.contains cell = true) :
    ∃ config, cellConfig grid tickMs cell = .ok config ∧
      Node.ofConfig config = .ok (Node.fresh grid cell) ∧
        config.bind = (grid.neighborAt cell).address ∧ config.adminSocket = none := by
  have address := Grid.addressOf_neighborAt onGrid
  have named := Node.isBlank_peerId cell
  have neighbors := Grid.neighborsOf_eq_ok onGrid
  refine ⟨_, by rw [cellConfig, NodeConfig.forCell, address]; rfl, ?_, rfl, rfl⟩
  simp [Node.ofConfig, NodeConfig.validate, named, address, neighbors, ticks, NodeConfig.defaultBuffer,
    Node.fresh]
  rfl

/-- The node of a cell, if its socket can be bound. -/
theorem startCell_eq (suits : Suits grid tickMs sockets) (onGrid : grid.contains cell = true) :
    (cellConfig grid tickMs cell).bind (NodeService.start · sockets) =
      if (grid.neighborAt cell).address ∈ sockets.inUse then .error (.io .addressInUse)
      else .ok (.fresh grid cell, sockets.take (grid.neighborAt cell).address) := by
  obtain ⟨config, made, started, bind, admin⟩ := exists_cellConfig suits.ticks onGrid
  have own : sockets.isOwn (grid.neighborAt cell).address.host = true := suits.own
  have port := port_ne_zero suits.port onGrid
  rw [made, Except.bind, NodeService.start, started, ok_bind, bind]
  split
  next taken => rw [Sockets.bind_of_taken own port taken]; rfl
  next free =>
    rw [Sockets.bind_of_free own port free, ok_mapError, ok_bind, admin]
    rfl

/-- The services of cells in order. -/
theorem startCells_of_free (suits : Suits grid tickMs sockets)
    (onGrid : ∀ cell ∈ cells, grid.contains cell = true) (distinct : cells.Nodup)
    (free : ∀ cell ∈ cells, (grid.neighborAt cell).address ∉ sockets.inUse) :
    startCells grid tickMs sockets cells = (.ok (cells.map (NodeService.fresh grid)),
      sockets.takeAll (cells.map fun cell => (grid.neighborAt cell).address)) := by
  induction cells generalizing sockets with
  | nil => rfl
  | cons cell rest ih =>
    obtain ⟨here, others⟩ := List.forall_mem_cons.mp onGrid
    obtain ⟨first, later⟩ := List.forall_mem_cons.mp free
    obtain ⟨apart, restDistinct⟩ := List.nodup_cons.mp distinct
    -- The socket that is bound now is at none of the addresses to come, which differ from cell to cell.
    have stillFree : ∀ other ∈ rest, (grid.neighborAt other).address ∉
        (sockets.take (grid.neighborAt cell).address).inUse := by
      intro other member taken
      rcases List.mem_cons.mp taken with same | earlier
      · have placed := Grid.addressOf_neighborAt (others other member)
        rw [same] at placed
        exact apart (Grid.addressOf_injective placed (Grid.addressOf_neighborAt here) ▸ member)
      · exact later other member earlier
    rw [startCells, startCell_eq suits here, if_neg first]
    dsimp only
    rw [ih (suits.take _) others restDistinct stillFree]
    dsimp only
    rw [Sockets.takeAll_take]
    rfl

/-- When a cell's port is taken, the sockets bound for the cells before it are closed again. -/
theorem startCells_of_taken (suits : Suits grid tickMs sockets)
    (onGrid : ∀ cell ∈ cells, grid.contains cell = true)
    (taken : ∃ cell ∈ cells, (grid.neighborAt cell).address ∈ sockets.inUse) :
    startCells grid tickMs sockets cells = (.error (.io .addressInUse), sockets) := by
  induction cells generalizing sockets with
  | nil => simp at taken
  | cons cell rest ih =>
    obtain ⟨here, others⟩ := List.forall_mem_cons.mp onGrid
    rw [startCells, startCell_eq suits here]
    by_cases first : (grid.neighborAt cell).address ∈ sockets.inUse
    · rw [if_pos first]
    -- A later cell's port is taken, so the launch fails there and then undoes this cell's socket too.
    · have later : ∃ other ∈ rest, (grid.neighborAt other).address ∈
          (sockets.take (grid.neighborAt cell).address).inUse := by
        obtain ⟨other, member, inUse⟩ := taken
        rcases List.mem_cons.mp member with rfl | inside
        · exact absurd inUse first
        · exact ⟨other, inside, List.mem_cons_of_mem _ inUse⟩
      rw [if_neg first]
      dsimp only
      rw [ih (suits.take _) others later]
      dsimp only [NodeService.fresh]
      rw [Sockets.release_take first]

def addresses (grid : Grid) : List Address :=
  grid.coords.map fun cell => (grid.neighborAt cell).address

theorem mem_addresses_iff {address : Address} :
    address ∈ addresses grid ↔ ∃ cell, grid.addressOf cell = .ok address := by
  constructor
  · intro listed
    obtain ⟨cell, member, rfl⟩ := List.mem_map.mp listed
    exact ⟨cell, Grid.addressOf_neighborAt (Grid.mem_coords_iff.mp member)⟩
  · rintro ⟨cell, placed⟩
    obtain ⟨onGrid, rfl⟩ := Grid.addressOf_eq_ok_iff.mp placed
    exact List.mem_map.mpr ⟨cell, Grid.mem_coords_iff.mpr onGrid, rfl⟩

def fresh (grid : Grid) (tickMs : UInt64) : Launcher where
  grid := grid
  tickMs := tickMs
  services := grid.coords.map (NodeService.fresh grid)

theorem start_of_free (suits : Suits grid tickMs sockets)
    (free : ∀ address ∈ addresses grid, address ∉ sockets.inUse) :
    start grid tickMs sockets = (.ok (fresh grid tickMs), sockets.takeAll (addresses grid)) := by
  have cellsFree : ∀ cell ∈ grid.coords, (grid.neighborAt cell).address ∉ sockets.inUse :=
    fun cell member => free _ (List.mem_map.mpr ⟨cell, member, rfl⟩)
  rw [start, startCells_of_free suits (fun _ => Grid.mem_coords_iff.mp) grid.nodup_coords cellsFree]
  rfl

theorem start_of_taken (suits : Suits grid tickMs sockets)
    (taken : ∃ address ∈ addresses grid, address ∈ sockets.inUse) :
    start grid tickMs sockets = (.error (.io .addressInUse), sockets) := by
  obtain ⟨address, listed, inUse⟩ := taken
  obtain ⟨cell, member, rfl⟩ := List.mem_map.mp listed
  rw [start, startCells_of_taken suits (fun _ => Grid.mem_coords_iff.mp) ⟨cell, member, inUse⟩]
  rfl

variable {launcher : Launcher} {service : NodeService}

theorem service?_eq_some_iff : launcher.service? cell = some service ↔
    ∃ index, launcher.grid.indexOf cell = .ok index ∧
      launcher.services[index.toNat]? = some service := by
  unfold service?
  cases launcher.grid.indexOf cell <;> simp [Except.toOption]

theorem getElem?_coords_index {index : UInt32} (found : grid.indexOf cell = .ok index) :
    grid.coords[index.toNat]? = some cell := by
  rw [grid.isExact.position, Grid.coordOf?_eq_some_iff]
  exact Grid.indexOf_eq_ok_iff.mp found

/-- A grid in service on a machine: its nodes in the order of the cells, each at its own, and no
socket bound outside the grid but those that were bound before the launch. -/
structure IsInService (grid : Grid) (tickMs : UInt64) (before : Sockets) (launcher : Launcher)
    (sockets : Sockets) : Prop where
  sameGrid : launcher.grid = grid
  sameTicks : launcher.tickMs = tickMs
  inOrder : List.Forall₂ (NodeService.SitsAt grid) grid.coords launcher.services
  others : sockets.without (addresses grid) = before

variable {before : Sockets}

theorem isInService_fresh (free : ∀ address ∈ addresses grid, address ∉ sockets.inUse) :
    (fresh grid tickMs).IsInService grid tickMs sockets (sockets.takeAll (addresses grid)) where
  sameGrid := rfl
  sameTicks := rfl
  inOrder := by
    refine List.forall₂_map_right_iff.mpr (List.forall₂_same.mpr fun cell member => ?_)
    exact NodeService.sitsAt_fresh (Grid.mem_coords_iff.mp member)
  others := Sockets.without_takeAll free

/-- What a cell is asked for is its own node, and there is one for every cell of the grid. -/
theorem IsInService.exists_service (inService : launcher.IsInService grid tickMs before sockets)
    {index : UInt32} (found : grid.indexOf cell = .ok index) :
    ∃ service, launcher.services[index.toNat]? = some service ∧ service.SitsAt grid cell := by
  obtain ⟨within, own⟩ := List.getElem?_eq_some_iff.mp (getElem?_coords_index found)
  have listed : index.toNat < launcher.services.length := inService.inOrder.length_eq ▸ within
  refine ⟨launcher.services[index.toNat], List.getElem?_eq_getElem listed, ?_⟩
  have sits := inService.inOrder.get within listed
  rwa [List.get_eq_getElem, List.get_eq_getElem, own] at sits

theorem IsInService.sitsAt (inService : launcher.IsInService grid tickMs before sockets)
    (found : launcher.service? cell = some service) : service.SitsAt grid cell := by
  obtain ⟨index, placed, listed⟩ := service?_eq_some_iff.mp found
  obtain ⟨own, ownListed, sits⟩ := inService.exists_service (inService.sameGrid ▸ placed)
  obtain rfl := Option.some.inj (listed.symm.trans ownListed)
  exact sits

theorem IsInService.exists_service?_iff (inService : launcher.IsInService grid tickMs before sockets) :
    (∃ service, launcher.service? cell = some service) ↔ grid.contains cell = true := by
  rw [← grid.isExact.indexed cell]
  constructor
  · rintro ⟨service, found⟩
    obtain ⟨index, placed, -⟩ := service?_eq_some_iff.mp found
    exact ⟨index, inService.sameGrid ▸ placed⟩
  · rintro ⟨index, placed⟩
    obtain ⟨service, listed, -⟩ := inService.exists_service placed
    exact ⟨service, service?_eq_some_iff.mpr ⟨index, by rw [inService.sameGrid, placed], listed⟩⟩

theorem forall₂_set {First Second : Type} {relation : First → Second → Prop} {first : List First}
    {second : List Second} (related : List.Forall₂ relation first second) {place : Nat} {left : First}
    {right : Second} (found : first[place]? = some left) (own : relation left right) :
    List.Forall₂ relation first (second.set place right) := by
  induction related generalizing place with
  | nil => exact .nil
  | cons head rest ih =>
    cases place with
    | zero =>
      obtain rfl := Option.some.inj found
      exact .cons own rest
    | succ place => exact .cons head (ih found)

/-- What can befall the node of a cell: a datagram reaches it, it is time to tick, whoever holds it
gives it a command, or stops it. -/
inductive Operation
  | receive (datagram : Datagram)
  | tick
  | execute (command : AdminCommand)
  | stop

def Operation.apply (service : NodeService) : Operation → NodeService
  | receive datagram => (service.receive datagram).2
  | tick => service.tick.2
  | execute command => (service.execute command).2
  | stop => service.stop

theorem sitsAt_apply (sits : service.SitsAt grid cell) (operation : Operation) :
    (operation.apply service).SitsAt grid cell := by
  cases operation with
  | receive datagram => exact sits.receive datagram
  | tick => exact sits.tick
  | execute command => exact sits.execute command
  | stop => exact sits.stop

/-- Let something befall the node of a cell, where there is one. A node that has stopped has closed
its socket. -/
def operate (launcher : Launcher) (sockets : Sockets) (cell : Coord) (operation : Operation) :
    Launcher × Sockets :=
  match launcher.service? cell with
  | none => (launcher, sockets)
  | some service =>
    let next := operation.apply service
    (launcher.setService cell next,
      if next.isStopped then sockets.release service.address else sockets)

def operateAll (launcher : Launcher) (sockets : Sockets) (operations : List (Coord × Operation)) :
    Launcher × Sockets :=
  operations.foldl (fun (launcher, sockets) (cell, operation) =>
    launcher.operate sockets cell operation) (launcher, sockets)

theorem IsInService.setService (inService : launcher.IsInService grid tickMs before sockets)
    (sits : service.SitsAt grid cell) :
    (launcher.setService cell service).IsInService grid tickMs before sockets := by
  obtain ⟨index, placed⟩ := (grid.isExact.indexed cell).mpr (Grid.exists_addressOf_iff.mp ⟨_, sits.address⟩)
  rw [Launcher.setService, inService.sameGrid, placed]
  exact ⟨rfl, inService.sameTicks,
    forall₂_set inService.inOrder (getElem?_coords_index placed) sits, inService.others⟩

theorem IsInService.operate (inService : launcher.IsInService grid tickMs before sockets) (cell : Coord)
    (operation : Operation) : (launcher.operate sockets cell operation).1.IsInService grid tickMs before
      (launcher.operate sockets cell operation).2 := by
  unfold Launcher.operate
  split
  · exact inService
  next service found =>
    have sits := inService.sitsAt found
    have next := inService.setService (sitsAt_apply sits operation)
    have member : service.address ∈ addresses grid := mem_addresses_iff.mpr ⟨cell, sits.address⟩
    dsimp only
    split
    · exact ⟨next.sameGrid, next.sameTicks, next.inOrder, (Sockets.without_release member).trans next.others⟩
    · exact next

theorem IsInService.operateAll (inService : launcher.IsInService grid tickMs before sockets)
    (operations : List (Coord × Operation)) :
    (launcher.operateAll sockets operations).1.IsInService grid tickMs before
      (launcher.operateAll sockets operations).2 := by
  induction operations generalizing launcher sockets with
  | nil => exact inService
  | cons first rest ih => exact ih (inService.operate first.1 first.2)

theorem IsInService.addresses_services (inService : launcher.IsInService grid tickMs before sockets) :
    launcher.services.map (·.address) = addresses grid := by
  rw [addresses, ← List.forall₂_eq_eq_eq, List.forall₂_map_left_iff, List.forall₂_map_right_iff]
  refine inService.inOrder.flip.imp fun service cell sits => ?_
  obtain ⟨-, placed⟩ := Grid.addressOf_eq_ok_iff.mp sits.address
  exact placed

theorem IsInService.shutdown_eq (inService : launcher.IsInService grid tickMs before sockets) :
    launcher.shutdown sockets = before := by
  rw [shutdown, ← List.foldl_map, Sockets.foldl_release, inService.addresses_services, inService.others]

theorem IsInService.restart_eq (inService : launcher.IsInService grid tickMs before sockets) :
    launcher.restart sockets = start grid tickMs before := by
  rw [restart, inService.shutdown_eq, inService.sameGrid, inService.sameTicks]

/-- There is a node for each cell of a grid and for no other position, and what is found at a
position is the node that belongs there. -/
structure Covers (grid : Grid) (launcher : Launcher) : Prop where
  count : launcher.services.length = grid.size.toNat ^ 2
  found : ∀ cell, (∃ service, launcher.service? cell = some service) ↔ grid.contains cell = true
  id {cell : Coord} {service : NodeService} : launcher.service? cell = some service →
    service.node.id = cell.peerId
  coord {cell : Coord} {service : NodeService} : launcher.service? cell = some service →
    service.node.coord = cell
  address {cell : Coord} {service : NodeService} : launcher.service? cell = some service →
    grid.addressOf cell = .ok service.address

theorem IsInService.covers (inService : launcher.IsInService grid tickMs before sockets) :
    Covers grid launcher where
  count := by
    rw [← inService.inOrder.length_eq, grid.isExact.length, Nat.pow_two]
    rfl
  found _ := inService.exists_service?_iff
  id found := (inService.sitsAt found).node.id
  coord found := (inService.sitsAt found).node.coord
  address found := (inService.sitsAt found).address

/-- A node that has just come up: alive, with nothing in store and no tick behind it. -/
structure IsUp (service : NodeService) : Prop where
  alive : service.node.alive = true
  empty : service.node.store = .empty
  generation : service.node.generation = 0
  running : service.isStopped = false

/-- What a launch that succeeds leaves behind, and what holds whatever befalls the nodes from there.
-/
structure IsLaunch (grid : Grid) (before : Sockets) (launcher : Launcher) (sockets : Sockets) :
    Prop where
  covers : Covers grid launcher
  up {service : NodeService} : service ∈ launcher.services → IsUp service
  bound : ∀ address, address ∈ sockets.inUse ↔
    address ∈ before.inUse ∨ ∃ cell, grid.addressOf cell = .ok address
  laterCovers : ∀ operations later left, launcher.operateAll sockets operations = (later, left) →
    Covers grid later
  shutdown : ∀ operations later left, launcher.operateAll sockets operations = (later, left) →
    later.shutdown left = before
  /-- A restart is the first launch over again, so its nodes are up as well. -/
  restart : ∀ operations later left, launcher.operateAll sockets operations = (later, left) →
    later.restart left = (.ok launcher, sockets)

theorem isInService_later {operations : List (Coord × Operation)} {later : Launcher} {left : Sockets}
    (free : ∀ address ∈ addresses grid, address ∉ sockets.inUse)
    (reached : (fresh grid tickMs).operateAll (sockets.takeAll (addresses grid)) operations =
      (later, left)) : later.IsInService grid tickMs sockets left := by
  have inService : (fresh grid tickMs).IsInService grid tickMs sockets _ := isInService_fresh free
  have kept := inService.operateAll operations
  rwa [reached] at kept

theorem isLaunch_fresh (suits : Suits grid tickMs sockets)
    (free : ∀ address ∈ addresses grid, address ∉ sockets.inUse) :
    IsLaunch grid sockets (fresh grid tickMs) (sockets.takeAll (addresses grid)) where
  covers := (isInService_fresh free).covers
  up member := by
    obtain ⟨cell, -, rfl⟩ := List.mem_map.mp member
    exact ⟨rfl, rfl, rfl, rfl⟩
  bound address := by
    rw [← mem_addresses_iff, Sockets.takeAll, List.mem_append, List.mem_reverse, or_comm]
  laterCovers _ _ _ reached := (isInService_later free reached).covers
  shutdown _ _ _ reached := (isInService_later free reached).shutdown_eq
  restart _ _ _ reached := by
    rw [(isInService_later free reached).restart_eq, start_of_free suits free]

/-- A launch succeeds exactly if no cell's address is taken. A launch that fails leaves no socket
behind. One that succeeds leaves each node at its cell, where it stays whatever befalls it, and a
restart brings up the same nodes at the same addresses. -/
theorem start_allOrNothing (suits : Suits grid tickMs sockets) :
    ((∃ launcher bound, start grid tickMs sockets = (.ok launcher, bound)) ↔
      ∀ cell address, grid.addressOf cell = .ok address → address ∉ sockets.inUse) ∧
    (∀ cause left, start grid tickMs sockets = (.error cause, left) →
      cause = .io .addressInUse ∧ left = sockets) ∧
    ∀ launcher bound, start grid tickMs sockets = (.ok launcher, bound) →
      IsLaunch grid sockets launcher bound := by
  by_cases free : ∀ address ∈ addresses grid, address ∉ sockets.inUse
  · have started := start_of_free suits free
    refine ⟨⟨fun _ cell address placed => free address (mem_addresses_iff.mpr ⟨cell, placed⟩),
      fun _ => ⟨_, _, started⟩⟩, fun cause left failed => ?_, fun launcher bound succeeded => ?_⟩
    · rw [started] at failed
      cases failed
    · obtain ⟨same, rfl⟩ := Prod.mk.inj (started.symm.trans succeeded)
      obtain rfl := Except.ok.inj same
      exact isLaunch_fresh suits free
  · push Not at free
    have failed := start_of_taken suits free
    obtain ⟨address, listed, taken⟩ := free
    obtain ⟨cell, placed⟩ := mem_addresses_iff.mp listed
    refine ⟨⟨?_, fun free => absurd taken (free cell address placed)⟩, fun cause left refused => ?_,
      fun launcher bound succeeded => ?_⟩
    · rintro ⟨launcher, bound, succeeded⟩
      rw [failed] at succeeded
      cases succeeded
    · obtain ⟨same, rfl⟩ := Prod.mk.inj (failed.symm.trans refused)
      exact ⟨(Except.error.inj same).symm, rfl⟩
    · rw [failed] at succeeded
      cases succeeded

/-- Four cells between two ports that are taken come up, and do so again after one was stopped and
another was killed. When the last of their own ports is taken as well, none of them comes up. -/
theorem start_allOrNothing_fourCells :
    (∃ launcher bound,
      start .fourCells 250 ⟨Host.isLocal, [⟨.loopback, 8999, 0⟩, ⟨.loopback, 9004, 0⟩]⟩ =
        (.ok launcher, bound) ∧ launcher.services.length = 4 ∧
      ∃ later left, launcher.operateAll bound [(⟨0, 0⟩, .stop), (⟨1, 0⟩, .execute .kill)] =
        (later, left) ∧ later.restart left = (.ok launcher, bound)) ∧
    start .fourCells 250 ⟨Host.isLocal, [⟨.loopback, 9003, 0⟩]⟩ =
      (.error (.io .addressInUse), ⟨Host.isLocal, [⟨.loopback, 9003, 0⟩]⟩) := by
  have suits (inUse : List Address) : Suits .fourCells 250 ⟨Host.isLocal, inUse⟩ :=
    ⟨rfl, by decide, by decide⟩
  refine ⟨?_, ?_⟩
  · obtain ⟨accepted, -, launched⟩ :=
      start_allOrNothing (suits [⟨.loopback, 8999, 0⟩, ⟨.loopback, 9004, 0⟩])
    have free : ∀ address ∈ addresses .fourCells,
        address ∉ [(⟨.loopback, 8999, 0⟩ : Address), ⟨.loopback, 9004, 0⟩] := by decide
    obtain ⟨launcher, bound, started⟩ := accepted.mpr fun cell address placed =>
      free address (mem_addresses_iff.mpr ⟨cell, placed⟩)
    have launch := launched launcher bound started
    refine ⟨launcher, bound, started, launch.covers.count, ?_⟩
    rcases reached : launcher.operateAll bound [(⟨0, 0⟩, .stop), (⟨1, 0⟩, .execute .kill)] with
      ⟨later, left⟩
    exact ⟨later, left, rfl, launch.restart _ later left reached⟩
  · obtain ⟨clash, refused, -⟩ := start_allOrNothing (suits [⟨.loopback, 9003, 0⟩])
    rcases found : start .fourCells 250 ⟨Host.isLocal, [⟨.loopback, 9003, 0⟩]⟩ with ⟨result, left⟩
    cases result with
    | error cause =>
      obtain ⟨rfl, rfl⟩ := refused cause left found
      rfl
    | ok launcher =>
      exact absurd (List.mem_singleton.mpr rfl) (clash.mp ⟨launcher, left, found⟩ ⟨1, 1⟩ _ rfl)

end Launcher
end GridDiffusion
