import Mathlib.Data.List.Forall2
import Mathlib.Data.List.ProdSigma
import Mathlib.Data.String.Basic
import GridDiffusion.Proofs.Node.Log
/-! What a tick sends: every held item to every cell around the node, once each and in order, with
the energy from before the decay. Who takes an item in has as much of it left as the sender keeps.
-/
namespace GridDiffusion

/-- The pairs of two maps are in the order of the first key, and of the second one where the first
is the same. -/
theorem SortedMap.pairwise_product {First Second Left Right : Type} [Ord First] [Ord Second]
    (left : SortedMap First Left) (right : SortedMap Second Right) :
    (left.entries ×ˢ right.entries).Pairwise fun earlier later =>
      compare earlier.1.1 later.1.1 = .lt ∨
        earlier.1 = later.1 ∧ compare earlier.2.1 later.2.1 = .lt := by
  refine List.pairwise_flatMap.mpr ⟨fun entry _ => ?_, left.sorted.imp ?_⟩
  · exact List.pairwise_map.mpr (right.sorted.imp fun below => .inr ⟨rfl, below⟩)
  · intro first second below one inFirst other inSecond
    obtain ⟨_, -, rfl⟩ := List.mem_map.mp inFirst
    obtain ⟨_, -, rfl⟩ := List.mem_map.mp inSecond
    exact .inl below

namespace Node
variable {node start : Node} {grid : Grid} {cell : Coord}

theorem spread_eq (node : Node) : node.spread =
    (node.store.entries ×ˢ node.neighbors.entries).map fun pair =>
      ⟨pair.2.2.address, .information node.id (pair.1.2.parcel pair.1.1)⟩ := by
  change node.spread = (node.store.entries.flatMap fun entry =>
    node.neighbors.entries.map (Prod.mk entry)).map _
  rw [spread, List.map_flatMap]
  simp only [SortedMap.values, List.map_map]
  rfl

/-- A node knows a neighbor under the peer id of each cell around it. -/
theorem mem_neighbors_fresh {id : String} {neighbor : Neighbor} :
    (id, neighbor) ∈ (fresh grid cell).neighbors.entries ↔
      ∃ near, grid.contains near = true ∧ cell.chebyshev near = 1 ∧ id = near.peerId ∧
        neighbor = grid.neighborAt near := by
  rw [fresh, SortedMap.mem_entries_ofList (nodup_peerIds grid cell), List.mem_map]
  constructor
  · intro known
    obtain ⟨near, around, same⟩ := known
    obtain ⟨onGrid, beside⟩ := Grid.mem_mooreNeighbors.mp around
    obtain ⟨rfl, rfl⟩ := Prod.mk.inj same
    exact ⟨near, onGrid, Coord.areNeighbors_iff.mp beside, rfl, rfl⟩
  · intro known
    obtain ⟨near, onGrid, beside, rfl, rfl⟩ := known
    exact ⟨near, Grid.mem_mooreNeighbors.mpr ⟨onGrid, Coord.areNeighbors_iff.mpr beside⟩, rfl⟩

theorem neighbors_ofConfig {config : NodeConfig} (valid : config.validate = .ok ())
    (started : ofConfig config = .ok start) :
    start.neighbors = (fresh config.grid config.coord).neighbors := by
  obtain ⟨-, address, -⟩ := NodeConfig.validate_eq_ok_iff.mp valid
  have onGrid := (Grid.addressOf_eq_ok_iff.mp address).1
  rw [ofConfig, valid, ok_bind, Grid.neighborsOf_eq_ok onGrid, ok_mapError, ok_bind] at started
  obtain rfl := Except.ok.inj started
  simp only [fresh, List.map_map]
  rfl

/-- What a node sends for a held item to a cell: the item as it is held, with its energy as far as a
signed number goes. -/
structure Carries (config : NodeConfig) (node : Node) (pair : String × Coord) (sent : Outgoing) :
    Prop where
  target : config.grid.addressOf pair.2 = .ok sent.target
  parcel : ∃ item parcel, node.store.get? pair.1 = some item ∧
    sent.message = .information config.nodeId parcel ∧ parcel.id = pair.1 ∧
      parcel.content = item.content ∧ parcel.hops = item.hops ∧ 0 < parcel.energy.toInt ∧
        parcel.energy.toInt = min item.energy.toNat (2 ^ 63 - 1)

/-- The held items and the cells around a node, in the order in which a tick goes through them. -/
def passings (node : Node) : List (String × Coord) :=
  (node.store.entries ×ˢ node.neighbors.entries).map fun pair => (pair.1.1, pair.2.2.coord)

theorem pairwise_passings (known : node.neighbors = (fresh grid cell).neighbors) :
    node.passings.Pairwise fun earlier later => earlier.1 < later.1 ∨
      earlier.1 = later.1 ∧ earlier.2.peerId < later.2.peerId := by
  refine List.pairwise_map.mpr ((SortedMap.pairwise_product _ _).imp_of_mem ?_)
  intro earlier later first second below
  have named {pair : (String × Item) × (String × Neighbor)}
      (member : pair ∈ node.store.entries ×ˢ node.neighbors.entries) :
      pair.2.2.coord.peerId = pair.2.1 := by
    have listed := (List.mem_product.mp member).2
    rw [known] at listed
    obtain ⟨near, -, -, id, neighbor⟩ := mem_neighbors_fresh.mp listed
    rw [id, neighbor]
    rfl
  rw [named first, named second]
  rcases below with item | ⟨same, cell⟩
  · exact .inl (compare_lt_iff_lt.mp item)
  · exact .inr ⟨congrArg (·.1) same, compare_lt_iff_lt.mp cell⟩

theorem mem_passings_iff (known : node.neighbors = (fresh grid cell).neighbors) {id : String}
    {near : Coord} : (id, near) ∈ node.passings ↔ (∃ item, node.store.get? id = some item) ∧
      grid.contains near = true ∧ cell.chebyshev near = 1 := by
  rw [passings, known, List.mem_map]
  constructor
  · intro listed
    obtain ⟨⟨⟨_, item⟩, _, neighbor⟩, member, same⟩ := listed
    obtain ⟨rfl, rfl⟩ := Prod.mk.inj same
    obtain ⟨held, around⟩ := List.mem_product.mp member
    obtain ⟨near, onGrid, beside, -, rfl⟩ := mem_neighbors_fresh.mp around
    exact ⟨⟨item, SortedMap.get?_eq_some_iff.mpr held⟩, onGrid, beside⟩
  · intro parts
    obtain ⟨⟨item, held⟩, onGrid, beside⟩ := parts
    have around : (near.peerId, grid.neighborAt near) ∈ (fresh grid cell).neighbors.entries :=
      mem_neighbors_fresh.mpr ⟨near, onGrid, beside, rfl, rfl⟩
    exact ⟨((id, item), (near.peerId, grid.neighborAt near)),
      List.mem_product.mpr ⟨SortedMap.get?_eq_some_iff.mp held, around⟩, rfl⟩

theorem toInt_energy_parcel_pos (item : Item) (id : String) : 0 < (item.parcel id).energy.toInt := by
  have amount : (item.parcel id).energy.toInt = min item.energy.toNat (2 ^ 63 - 1) :=
    toInt_wireEnergy item.energy
  have positive := item.energy_pos
  omega

theorem forall₂_passings {config : NodeConfig} (named : node.id = config.nodeId)
    (known : node.neighbors = (fresh config.grid config.coord).neighbors) :
    List.Forall₂ (Carries config node) node.passings node.spread := by
  rw [spread_eq, passings, List.forall₂_map_left_iff, List.forall₂_map_right_iff, List.forall₂_same]
  intro pair member
  obtain ⟨⟨id, item⟩, name, neighbor⟩ := pair
  obtain ⟨held, around⟩ := List.mem_product.mp member
  rw [known] at around
  obtain ⟨near, onGrid, -, -, rfl⟩ := mem_neighbors_fresh.mp around
  exact ⟨Grid.addressOf_neighborAt onGrid, item, item.parcel id, SortedMap.get?_eq_some_iff.mpr held,
    congrArg (Message.information · (item.parcel id)) named, rfl, rfl, rfl,
    toInt_energy_parcel_pos item id, toInt_wireEnergy item.energy⟩

/-- What becomes of a held item at a node that is alive and does not hold it, when the holder's tick
passes it on. -/
structure TakesOver (peer holder : Node) (sent : Outgoing) (source : Address) (id : String)
    (item : Item) : Prop where
  silent : (peer.handle sent.message source).1 = none
  stored_iff : (∃ copy, (peer.handle sent.message source).2.store.get? id = some copy) ↔
    2 ≤ item.energy.toNat
  stored {copy : Item} (taken : (peer.handle sent.message source).2.store.get? id = some copy) :
    (peer.handle sent.message source).2 = { peer with store := peer.store.insert id copy } ∧
      copy.content = item.content ∧
        copy.energy.toNat = min item.energy.toNat (2 ^ 63 - 1) - 1 ∧
          copy.hops.toNat = min (item.hops.toNat + 1) (2 ^ 64 - 1) ∧
            copy.provenance = .peer holder.id
  refused : item.energy.toNat < 2 → (peer.handle sent.message source).2 = peer
  /-- The sender keeps as much as the neighbor gets. -/
  kept {copy : Item} (taken : (peer.handle sent.message source).2.store.get? id = some copy)
    (signed : item.energy.toNat ≤ 2 ^ 63 - 1) :
    ∃ rest, holder.tick.2.store.get? id = some rest ∧ rest.energy = copy.energy

theorem takesOver_of_free {peer holder : Node} {sent : Outgoing} {id : String} {item : Item}
    (carried : sent.message = .information holder.id (item.parcel id)) (empty : holder.EmptyIfDead)
    (held : holder.store.get? id = some item) (alive : peer.alive = true)
    (free : peer.store.get? id = none) (source : Address) :
    peer.TakesOver holder sent source id item := by
  have handled : peer.handle sent.message source =
      (none, (peer.receive holder.id (item.parcel id)).2) := by rw [carried, handle]
  have found : (peer.receive holder.id (item.parcel id)).2.store.get? id =
      (item.parcel id).arrival? holder.id := by
    rw [get?_receive alive, free, Option.none_or]
    exact if_pos rfl
  have after := receive_of_alive alive holder.id (item.parcel id)
  have same : (item.parcel id).id = id := rfl
  rw [same, free] at after
  constructor
  case silent => rw [handled]
  case stored_iff =>
    rw [handled, found]
    exact Item.exists_arrival_parcel_iff
  case stored =>
    intro copy taken
    rw [handled, found] at taken
    obtain ⟨content, energy, hops, provenance⟩ := Item.arrival?_parcel_eq_some_iff.mp taken
    rw [taken] at after
    exact ⟨handled ▸ after, content, by omega, hops, provenance⟩
  case refused =>
    intro last
    have none : (item.parcel id).arrival? holder.id = none := by
      refine Option.eq_none_iff_forall_ne_some.mpr fun copy arrived => ?_
      have charged := Item.exists_arrival_parcel_iff.mp ⟨copy, arrived⟩
      omega
    rw [none] at after
    exact handled ▸ after
  case kept =>
    intro copy taken signed
    rw [handled, found] at taken
    have amount := (Item.arrival?_parcel_eq_some_iff.mp taken).2.1
    rw [get?_tick empty, held, Option.bind_some]
    cases decayed : item.decayed? with
    | none =>
      have last := Item.decayed?_eq_none_iff.mp decayed
      have positive := copy.energy_pos
      omega
    | some rest =>
      have less := (Item.decayed?_eq_some_iff.mp decayed).2.1
      exact ⟨rest, rfl, UInt64.toNat_inj.mp (by omega)⟩

/-- A node whose tick passes every held item to every cell around it, once each. -/
structure Spreads (config : NodeConfig) (node : Node) : Prop where
  /-- There is one datagram for each held item and each cell at distance one, by the ids of the
  items and within an item by the peer ids of the cells. -/
  alive : node.alive = true → ∃ pairs : List (String × Coord),
    (pairs.Pairwise fun earlier later => earlier.1 < later.1 ∨
      earlier.1 = later.1 ∧ earlier.2.peerId < later.2.peerId) ∧
    (∀ id near, (id, near) ∈ pairs ↔ (∃ item, node.store.get? id = some item) ∧
      config.grid.contains near = true ∧ config.coord.chebyshev near = 1) ∧
    List.Forall₂ (Carries config node) pairs node.tick.1
  dead : node.alive = false → node.tick.1 = []
  /-- Whoever is alive and does not hold the item takes it over, unless its energy is spent. -/
  arrival {sent : Outgoing} (member : sent ∈ node.tick.1) : ∃ item parcel,
    sent.message = .information config.nodeId parcel ∧ node.store.get? parcel.id = some item ∧
      ∀ (peer : Node) (source : Address), peer.alive = true → peer.store.get? parcel.id = none →
        peer.TakesOver node sent source parcel.id item
  /-- The node goes by the configured id. -/
  id : node.id = config.nodeId

/-- A node that a valid configuration starts spreads what it holds on every tick, whatever has
happened to it before. -/
theorem spreads_of_validate {config : NodeConfig} (valid : config.validate = .ok ()) :
    ∃ start, ofConfig config = .ok start ∧
      ∀ log : List NodeEvent, (start.replay log).Spreads config := by
  obtain ⟨start, started, -, -, empty, named, -, -⟩ := ofConfig_of_validate valid
  refine ⟨start, started, fun log => ?_⟩
  have settled : (start.replay log).EmptyIfDead := EmptyIfDead.replay (fun _ => empty) log
  have same := start.samePlace_replay log
  have id := same.id.trans named
  have known := same.neighbors.trans (neighbors_ofConfig valid started)
  generalize start.replay log = node at settled id known
  constructor
  case alive =>
    intro alive
    have sent : node.tick.1 = node.spread := by rw [tick, if_pos alive]
    exact ⟨node.passings, pairwise_passings known, fun _ _ => mem_passings_iff known,
      sent ▸ forall₂_passings id known⟩
  case dead =>
    intro dead
    rw [tick_of_dead dead]
  case arrival =>
    intro sent member
    obtain ⟨name, item, held, neighbor, -, rfl⟩ := (mem_tick_iff settled).mp member
    exact ⟨item, item.parcel name, congrArg (Message.information · (item.parcel name)) id, held,
      fun peer source alive free => takesOver_of_free rfl settled held alive free source⟩
  case id => exact id

/-- A node that has come back to life spreads what it was given since. -/
theorem spreads_of_validate_corner :
    let log : List NodeEvent := [.inject "b" "" 1, .kill, .revive, .inject "a" "news" 3]
    corner.validate = .ok () ∧ ∃ start, ofConfig corner = .ok start ∧
      (start.replay log).Spreads corner ∧ (start.replay log).alive = true ∧
        (start.replay log).Holds "a" "news" 3 0 .self := by
  intro log
  have valid : corner.validate = .ok () := NodeConfig.validate_eq_ok_iff.mpr (by decide +kernel)
  obtain ⟨start, started, spreads⟩ := spreads_of_validate valid
  exact ⟨valid, start, started, spreads log, rfl, _, rfl, rfl, rfl, rfl, rfl⟩

end Node
end GridDiffusion
