import GridDiffusion.Proofs.Grid.Neighborhood
import GridDiffusion.Proofs.Node.Step
/-! The node of a cell: where a node of a grid stands and whom it talks to, from its start on. -/
namespace GridDiffusion

/-- A configuration is valid if it names its node, has it listen where its cell does, and lets it
tick and buffer. -/
theorem NodeConfig.validate_eq_ok_iff {config : NodeConfig} : config.validate = .ok () ↔
    Text.isBlank config.nodeId = false ∧ config.grid.addressOf config.coord = .ok config.bind ∧
      config.tickMs ≠ 0 ∧ config.sendBuffer ≠ 0 ∧ config.receiveBuffer ≠ 0 := by
  unfold validate
  cases blank : Text.isBlank config.nodeId with
  | true => simp
  | false =>
    cases config.grid.addressOf config.coord with
    | error cause => simp
    | ok expected =>
      by_cases bind : config.bind = expected
      · by_cases tick : config.tickMs = 0
        · simp [bind, tick]
        · by_cases buffers : config.sendBuffer = 0 ∨ config.receiveBuffer = 0 <;>
            simp [bind, tick, ← not_or, buffers]
      · simp [bind, Ne.symm bind]

namespace Node

/-- A node that belongs to a cell: it answers to the cell's peer id and address, and its neighbors
are the nodes of the cells around it. -/
structure LivesAt (grid : Grid) (cell : Coord) (node : Node) : Prop where
  id : node.id = cell.peerId
  coord : node.coord = cell
  address : grid.addressOf cell = .ok node.address
  neighbors {neighbor : Neighbor} : neighbor ∈ node.neighbors.values ↔
    ∃ near ∈ grid.mooreNeighbors cell, neighbor = grid.neighborAt near
  emptyIfDead : node.EmptyIfDead

variable {grid : Grid} {cell : Coord} {node : Node}

def fresh (grid : Grid) (cell : Coord) : Node where
  id := cell.peerId
  coord := cell
  address := (grid.neighborAt cell).address
  neighbors := .ofList ((grid.mooreNeighbors cell).map fun near =>
    (near.peerId, grid.neighborAt near))
  alive := true
  generation := 0
  store := .empty

theorem isBlank_peerId (cell : Coord) : Text.isBlank cell.peerId = false := by
  simp [Text.isBlank, Coord.peerId, isBlank, blankRanges]

theorem ofConfig_forCell (onGrid : grid.contains cell = true) :
    (NodeConfig.forCell grid cell).bind ofConfig = .ok (fresh grid cell) := by
  have address := Grid.addressOf_neighborAt onGrid
  have named := isBlank_peerId cell
  have neighbors := Grid.neighborsOf_eq_ok onGrid
  simp [NodeConfig.forCell, address, Except.bind, ofConfig, NodeConfig.validate, named, neighbors,
    NodeConfig.defaultTickMs, NodeConfig.defaultBuffer, fresh]
  rfl

theorem nodup_peerIds (grid : Grid) (cell : Coord) : (((grid.mooreNeighbors cell).map fun near =>
    (near.peerId, grid.neighborAt near)).map Prod.fst).Nodup := by
  rw [List.map_map]
  exact Grid.nodup_map_peerId grid cell

theorem perm_neighbors_fresh (grid : Grid) (cell : Coord) :
    (fresh grid cell).neighbors.values.Perm ((grid.mooreNeighbors cell).map grid.neighborAt) := by
  have listed := (SortedMap.perm_entries_ofList (nodup_peerIds grid cell)).map Prod.snd
  rwa [List.map_map] at listed

theorem livesAt_fresh (onGrid : grid.contains cell = true) : (fresh grid cell).LivesAt grid cell := by
  refine ⟨rfl, rfl, Grid.addressOf_neighborAt onGrid, ?_, ?_⟩
  · intro neighbor
    rw [(perm_neighbors_fresh grid cell).mem_iff, List.mem_map]
    simp only [eq_comm]
  · intro dead
    cases dead

theorem LivesAt.of_samePlace {before after : Node} (lives : before.LivesAt grid cell)
    (same : SamePlace before after) (empty : after.EmptyIfDead) : after.LivesAt grid cell where
  id := same.id.trans lives.id
  coord := same.coord.trans lives.coord
  address := same.address ▸ lives.address
  neighbors := same.neighbors ▸ lives.neighbors
  emptyIfDead := empty

theorem LivesAt.handle (lives : node.LivesAt grid cell) (message : Message) (source : Address) :
    (node.handle message source).2.LivesAt grid cell :=
  lives.of_samePlace (node.samePlace_handle message source)
    (lives.emptyIfDead.handle message source)

theorem LivesAt.tick (lives : node.LivesAt grid cell) : node.tick.2.LivesAt grid cell :=
  lives.of_samePlace node.samePlace_tick lives.emptyIfDead.tick

theorem LivesAt.kill (lives : node.LivesAt grid cell) : node.kill.LivesAt grid cell :=
  lives.of_samePlace node.samePlace_kill node.emptyIfDead_kill

theorem LivesAt.revive (lives : node.LivesAt grid cell) : node.revive.2.LivesAt grid cell :=
  lives.of_samePlace node.samePlace_revive node.emptyIfDead_revive

theorem LivesAt.inject (lives : node.LivesAt grid cell) {next : Node} {id content : String}
    {energy : UInt64} (taken : node.inject id content energy = .ok next) :
    next.LivesAt grid cell :=
  lives.of_samePlace (samePlace_inject taken) (emptyIfDead_inject taken)

/-- What the node of a cell sends on a tick: each item that it holds to each cell around it. -/
theorem LivesAt.mem_tick_iff (lives : node.LivesAt grid cell) {outgoing : Outgoing} :
    outgoing ∈ node.tick.1 ↔ ∃ id item, node.store.get? id = some item ∧
      ∃ near ∈ grid.mooreNeighbors cell, outgoing =
        ⟨(grid.neighborAt near).address, .information cell.peerId (item.parcel id)⟩ := by
  rw [Node.mem_tick_iff lives.emptyIfDead, lives.id]
  constructor
  · intro sent
    obtain ⟨id, item, held, neighbor, member, rfl⟩ := sent
    obtain ⟨near, around, rfl⟩ := lives.neighbors.1 member
    exact ⟨id, item, held, near, around, rfl⟩
  · intro sent
    obtain ⟨id, item, held, near, around, rfl⟩ := sent
    exact ⟨id, item, held, grid.neighborAt near, lives.neighbors.2 ⟨near, around, rfl⟩, rfl⟩

end Node
end GridDiffusion
