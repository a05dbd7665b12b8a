import GridDiffusion.Proofs.Node.Spread
import GridDiffusion.Proofs.Node.Startup
import GridDiffusion.Proofs.Service.Launch
/-! Where a node listens and where its peers look for it: the two are the same address for every
node that passes its check, except for the first cell of a grid whose base names no port. -/
namespace GridDiffusion

namespace Grid
variable {grid : Grid} {cell : Coord} {address : Address}

/-- Whether the address of a cell names no port to listen at. -/
def LacksPort (grid : Grid) (cell : Coord) : Prop := grid.base.port = 0 ∧ cell = ⟨0, 0⟩

/-- An address that is a cell's own: its port lies above the base port by the place of the cell,
without wrapping, so it is a port to listen at unless the cell lacks one. -/
structure Places (grid : Grid) (cell : Coord) (address : Address) : Prop where
  found : grid.addressOf cell = .ok address
  port : address.port.toNat =
    grid.base.port.toNat + (cell.y.toNat * grid.size.toNat + cell.x.toNat)
  port_eq_zero_iff : address.port = 0 ↔ grid.LacksPort cell

theorem places_of_addressOf (found : grid.addressOf cell = .ok address) : grid.Places cell address := by
  have port := toNat_port found
  refine ⟨found, port, ?_⟩
  rw [← UInt16.toNat_inj, port]
  constructor
  · intro zero
    obtain ⟨base, place⟩ := Nat.add_eq_zero_iff.mp zero
    obtain ⟨row, column⟩ := Nat.add_eq_zero_iff.mp place
    have top := (Nat.mul_eq_zero.mp row).resolve_right (Nat.ne_of_gt grid.size_pos)
    exact ⟨UInt16.toNat_inj.mp base, Coord.ext_toNat column top⟩
  · rintro ⟨base, rfl⟩
    simp [base]

end Grid

namespace Sockets
variable {sockets left : Sockets} {wanted bound : Address}

/-- An address that a socket may get which asks for one: a given port is that port, and port zero is
some other one. -/
structure IsGrant (wanted bound : Address) : Prop where
  host : bound.host = wanted.host
  zone : bound.zone = wanted.zone
  given : wanted.port ≠ 0 → bound.port = wanted.port
  spare : wanted.port = 0 → bound.port ≠ 0

theorem IsGrant.eq_iff (grant : IsGrant wanted bound) : bound = wanted ↔ wanted.port ≠ 0 := by
  constructor
  · rintro rfl zero
    exact grant.spare zero zero
  · intro given
    have host := grant.host
    have zone := grant.zone
    have port := grant.given given
    cases wanted
    cases bound
    rw [Address.mk.injEq]
    exact ⟨host, port, zone⟩

theorem ne_zero_of_mem_sparePorts {port : UInt16} (spare : port ∈ sparePorts) : port ≠ 0 := by
  obtain ⟨step, within, rfl⟩ := List.mem_map.mp spare
  have bound := List.mem_range.mp within
  have first : (32768 : UInt16).toNat = 32768 := rfl
  have zero : (0 : UInt16).toNat = 0 := rfl
  rw [ne_eq, ← UInt16.toNat_inj, UInt16.toNat_add, Nat.toUInt16_eq, UInt16.toNat_ofNat', first, zero]
  omega

theorem isGrant_of_bind (got : sockets.bind wanted = .ok (bound, left)) : IsGrant wanted bound := by
  have granted : sockets.granted? wanted = some bound := by
    unfold bind at got
    split at got
    · cases got
    split at got
    next granted =>
      cases got
      exact granted
    next => cases got
  unfold granted? at granted
  split at granted
  next zero =>
    obtain ⟨port, found, rfl⟩ := Option.map_eq_some_iff.mp granted
    exact ⟨rfl, rfl, fun given => absurd zero given,
      fun _ => ne_zero_of_mem_sparePorts (List.mem_of_find?_eq_some found)⟩
  next given =>
    split at granted
    · cases granted
      exact ⟨rfl, rfl, fun _ => rfl, fun zero => absurd zero given⟩
    · cases granted

/-- Whether a machine has what a socket asks for. -/
structure Offers (sockets : Sockets) (wanted : Address) : Prop where
  own : sockets.isOwn wanted.host = true
  given : wanted.port ≠ 0 → wanted ∉ sockets.inUse
  spare : wanted.port = 0 → ∃ port ∈ sparePorts, { wanted with port } ∉ sockets.inUse

theorem exists_bind (offers : sockets.Offers wanted) :
    ∃ bound left, sockets.bind wanted = .ok (bound, left) := by
  by_cases given : wanted.port = 0
  · obtain ⟨port, spare, free⟩ := offers.spare given
    have free : (sparePorts.find? fun port => sockets.isFree { wanted with port }).isSome = true :=
      List.find?_isSome.mpr ⟨port, spare, isFree_iff.mpr free⟩
    obtain ⟨first, found⟩ := Option.isSome_iff_exists.mp free
    have granted : sockets.granted? wanted = some { wanted with port := first } := by
      rw [granted?, if_pos given, found, Option.map_some]
    refine ⟨{ wanted with port := first }, sockets.take { wanted with port := first }, ?_⟩
    simp [bind, offers.own, granted, take]
  · exact ⟨_, _, bind_of_free offers.own given (offers.given given)⟩

end Sockets

theorem NodeArguments.validate_of_toConfig {arguments : NodeArguments} {config : NodeConfig}
    (given : arguments.toConfig = .ok config) : config.validate = .ok () := by
  cases made : Grid.ofSize arguments.gridSize arguments.base with
  | error cause =>
    rw [toConfig_of_refused made] at given
    cases given
  | ok grid =>
    cases onGrid : grid.contains arguments.cell with
    | false =>
      rw [toConfig_of_offGrid made onGrid] at given
      cases given
    | true =>
      obtain ⟨own, found⟩ := Grid.exists_addressOf_iff.mpr onGrid
      rw [toConfig_of_addressOf made found] at given
      cases valid : (arguments.draft grid own).validate with
      | error cause =>
        rw [valid] at given
        cases given
      | ok =>
        rw [valid] at given
        cases given
        exact valid

namespace NodeConfig
variable {config : NodeConfig}

/-- Where the node of a configuration listens, and where it and its peers look for each other. -/
structure Listens (config : NodeConfig) : Prop where
  bind : config.grid.Places config.coord config.bind
  builds : ∃ node, Node.ofConfig config = .ok node
  neighbors {node : Node} {id : String} {neighbor : Neighbor} :
    Node.ofConfig config = .ok node → (id, neighbor) ∈ node.neighbors.entries →
      config.grid.Places neighbor.coord neighbor.address
  /-- What the socket gets is the address of the cell. -/
  found {bound : Address} : Sockets.IsGrant config.bind bound →
    (config.grid.addressOf config.coord = .ok bound ↔ ¬ config.grid.LacksPort config.coord)
  /-- It is where every peer sends what it has for the cell. -/
  peers {peer : NodeConfig} {node : Node} {id : String} {neighbor : Neighbor} {bound : Address} :
    peer.validate = .ok () → peer.grid = config.grid → Node.ofConfig peer = .ok node →
      (id, neighbor) ∈ node.neighbors.entries → neighbor.coord = config.coord →
        Sockets.IsGrant config.bind bound →
          (neighbor.address = bound ↔ ¬ config.grid.LacksPort config.coord)
  /-- The node in service is the one that was built, at an address that its socket may get. -/
  service {sockets left : Sockets} {service : NodeService} :
    NodeService.start config sockets = .ok (service, left) →
      Node.ofConfig config = .ok service.node ∧ Sockets.IsGrant config.bind service.address
  starts (sockets : Sockets) : sockets.Offers config.bind →
    ∃ service left, NodeService.start config sockets = .ok (service, left)

/-- A node knows its neighbors at their own addresses. -/
theorem places_of_mem_neighbors {node : Node} {id : String} {neighbor : Neighbor}
    (valid : config.validate = .ok ()) (built : Node.ofConfig config = .ok node)
    (known : (id, neighbor) ∈ node.neighbors.entries) :
    config.grid.Places neighbor.coord neighbor.address := by
  rw [Node.neighbors_ofConfig valid built] at known
  obtain ⟨near, onGrid, -, -, rfl⟩ := Node.mem_neighbors_fresh.mp known
  exact Grid.places_of_addressOf (Grid.addressOf_neighborAt onGrid)

theorem service_of_start {sockets left : Sockets} {service : NodeService}
    (started : NodeService.start config sockets = .ok (service, left)) :
    Node.ofConfig config = .ok service.node ∧ Sockets.IsGrant config.bind service.address := by
  unfold NodeService.start at started
  cases built : Node.ofConfig config with
  | error cause =>
    rw [built] at started
    cases started
  | ok node =>
    rw [built, ok_bind] at started
    rcases got : sockets.bind config.bind with cause | ⟨bound, rest⟩
    · rw [got] at started
      cases started
    · rw [got] at started
      cases started
      exact ⟨rfl, Sockets.isGrant_of_bind got⟩

theorem exists_start {sockets : Sockets} (valid : config.validate = .ok ())
    (offers : sockets.Offers config.bind) :
    ∃ service left, NodeService.start config sockets = .ok (service, left) := by
  obtain ⟨node, built, -⟩ := Node.ofConfig_of_validate valid
  obtain ⟨bound, left, got⟩ := Sockets.exists_bind offers
  refine ⟨⟨node, bound, config.adminSocket, false⟩, left, ?_⟩
  rw [NodeService.start, built, ok_bind, got, ok_mapError, ok_bind]
  rfl

/-- Whatever passes the check, such as what the arguments of a node give, listens where its peers
look for it, unless it is for the first cell of a grid whose base port is zero. -/
theorem listens_of_validate (accepted : config.validate = .ok () ∨
    ∃ arguments : NodeArguments, arguments.toConfig = .ok config) : config.Listens := by
  have valid : config.validate = .ok () := by
    rcases accepted with valid | ⟨arguments, given⟩
    · exact valid
    · exact NodeArguments.validate_of_toConfig given
  obtain ⟨-, address, -⟩ := validate_eq_ok_iff.mp valid
  have own := Grid.places_of_addressOf address
  have found {bound : Address} (grant : Sockets.IsGrant config.bind bound) :
      config.grid.addressOf config.coord = .ok bound ↔ ¬ config.grid.LacksPort config.coord := by
    rw [own.found, Except.ok.injEq, eq_comm, grant.eq_iff, ne_eq, own.port_eq_zero_iff]
  obtain ⟨node, built, -⟩ := Node.ofConfig_of_validate valid
  constructor
  case bind => exact own
  case builds => exact ⟨node, built⟩
  case neighbors => exact places_of_mem_neighbors valid
  case found => exact found
  case peers =>
    intro peer node id neighbor bound peerValid sameGrid peerBuilt known sameCell grant
    have placed := (places_of_mem_neighbors peerValid peerBuilt known).found
    rw [sameGrid, sameCell] at placed
    rw [← found grant, placed, Except.ok.injEq]
  case service => exact service_of_start
  case starts => exact fun _ => exists_start valid

/-- The first of four cells listens at the grid's base address. -/
theorem listens_of_validate_corner :
    Node.corner.validate = .ok () ∧ ¬ Node.corner.grid.LacksPort Node.corner.coord ∧
      ∃ service left, NodeService.start Node.corner .fresh = .ok (service, left) ∧
        Node.corner.grid.addressOf Node.corner.coord = .ok service.address := by
  have valid : Node.corner.validate = .ok () := validate_eq_ok_iff.mpr (by decide +kernel)
  have port : ¬ Node.corner.grid.LacksPort Node.corner.coord := fun lacks => by cases lacks.1
  have listens := listens_of_validate (.inl valid)
  obtain ⟨service, left, started⟩ := listens.starts .fresh ⟨rfl, fun _ => List.not_mem_nil, nofun⟩
  exact ⟨valid, port, service, left, started,
    (listens.found (listens.service started).2).mpr port⟩

/-- The arguments for the node of one of four cells, with the base port given as zero. -/
def portless (column : UInt32) : NodeArguments where
  nodeId := none
  gridX := column
  gridY := 0
  gridSize := 2
  baseAddress := defaultBaseAddress
  basePort := some 0
  port := none
  tickMs := defaultTickMs
  sendBuffer := defaultBuffer
  receiveBuffer := defaultBuffer
  adminSocket := none

/-- With the base port zero the first cell passes the check and is started, but at a port at which
its neighbor does not look for it. -/
theorem misplaced_of_portless :
    ∃ config peer, (portless 0).toConfig = .ok config ∧ (portless 1).toConfig = .ok peer ∧
      peer.grid = config.grid ∧ config.validate = .ok () ∧ config.bind.port = 0 ∧
        ∃ service left, NodeService.start config .fresh = .ok (service, left) ∧
          config.grid.addressOf config.coord ≠ .ok service.address ∧
            ∃ node neighbor, Node.ofConfig peer = .ok node ∧
              ("node_0_0", neighbor) ∈ node.neighbors.entries ∧ neighbor.coord = config.coord ∧
                neighbor.address ≠ service.address := by
  obtain ⟨config, peer, given, peerGiven, grid, port, place, beside⟩ :
      ∃ config peer, (portless 0).toConfig = .ok config ∧ (portless 1).toConfig = .ok peer ∧
        peer.grid = config.grid ∧ config.bind = ⟨.loopback, 0, 0⟩ ∧ config.coord = ⟨0, 0⟩ ∧
          peer.coord = ⟨1, 0⟩ := ⟨_, _, rfl, rfl, rfl, rfl, rfl, rfl⟩
  have valid := NodeArguments.validate_of_toConfig given
  have peerValid := NodeArguments.validate_of_toConfig peerGiven
  obtain ⟨-, address, -⟩ := validate_eq_ok_iff.mp valid
  have spare : ∃ spare ∈ sparePorts, { config.bind with port := spare } ∉ Sockets.fresh.inUse :=
    ⟨32768, List.mem_map.mpr ⟨0, List.mem_range.mpr (by decide), rfl⟩, List.not_mem_nil⟩
  obtain ⟨service, left, started⟩ :=
    exists_start valid ⟨by rw [port]; rfl, by simp [port], fun _ => spare⟩
  have moved : service.address ≠ config.bind := by
    rw [ne_eq, (service_of_start started).2.eq_iff, port]
    exact not_not.mpr rfl
  obtain ⟨node, built, -⟩ := Node.ofConfig_of_validate peerValid
  have known : ("node_0_0", config.grid.neighborAt ⟨0, 0⟩) ∈ node.neighbors.entries := by
    rw [Node.neighbors_ofConfig peerValid built, beside, grid]
    refine Node.mem_neighbors_fresh.mpr ⟨⟨0, 0⟩, ?_, rfl, rfl, rfl⟩
    exact place ▸ (Grid.addressOf_eq_ok_iff.mp address).1
  have looked : (config.grid.neighborAt ⟨0, 0⟩).address = config.bind := by
    obtain ⟨onGrid, same⟩ := Grid.addressOf_eq_ok_iff.mp address
    rw [place] at same
    exact same.symm
  refine ⟨config, peer, given, peerGiven, grid, valid, by rw [port], service, left, started, ?_,
    node, _, built, known, place.symm, ?_⟩
  · rw [address, ne_eq, Except.ok.injEq]
    exact moved.symm
  · rw [looked]
    exact moved.symm

end NodeConfig
end GridDiffusion
