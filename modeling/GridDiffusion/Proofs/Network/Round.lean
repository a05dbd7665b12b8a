import GridDiffusion.Proofs.Network.Action
/-! Rounds as one simultaneous step of all cells: what a cell holds after a round is told by what it
and the cells around it held before. -/
namespace GridDiffusion

section Collect
variable {Source Middle Target : Type}

theorem findSome?_filterMap (list : List Source) (pick : Source → Option Middle)
    (found : Middle → Option Target) :
    (list.filterMap pick).findSome? found = list.findSome? fun member => (pick member).bind found := by
  induction list with
  | nil => rfl
  | cons head rest ih =>
    rw [List.filterMap_cons, List.findSome?_cons]
    cases picked : pick head with
    | none => exact ih
    | some middle => rw [Option.bind_some, List.findSome?_cons, ih]

theorem findSome?_flatMap (list : List Source) (spread : Source → List Middle)
    (found : Middle → Option Target) :
    (list.flatMap spread).findSome? found = list.findSome? fun member =>
      (spread member).findSome? found := by
  induction list with
  | nil => rfl
  | cons head rest ih =>
    rw [List.flatMap_cons, List.findSome?_append, ih, List.findSome?_cons]
    cases (spread head).findSome? found <;> rfl

/-- Where all members that give something give the same, that is what is found. -/
theorem findSome?_eq_of_iff {list : List Source} {found : Source → Option Target}
    {result : Option Target}
    (same : ∀ target, (∃ member ∈ list, found member = some target) ↔ result = some target) :
    list.findSome? found = result := by
  cases search : list.findSome? found with
  | none =>
    rw [List.findSome?_eq_none_iff] at search
    refine (Option.eq_none_iff_forall_not_mem.mpr fun target given => ?_).symm
    obtain ⟨member, inside, gives⟩ := (same target).2 given
    exact absurd ((search member inside).symm.trans gives) nofun
  | some target => exact ((same target).1 (List.exists_of_findSome?_eq_some search)).symm

end Collect

def Node.packets (node : Node) : List Packet :=
  node.tick.1.map fun out => ⟨node.address, out.target, out.message⟩

theorem Node.LivesAt.mem_packets_iff {grid : Grid} {cell : Coord} {node : Node}
    (lives : node.LivesAt grid cell) {packet : Packet} : packet ∈ node.packets ↔
      ∃ id item, node.store.get? id = some item ∧ ∃ near ∈ grid.mooreNeighbors cell,
        packet = ⟨node.address, (grid.neighborAt near).address,
          .information cell.peerId (item.parcel id)⟩ := by
  rw [packets, List.mem_map]
  constructor
  · intro listed
    obtain ⟨outgoing, sent, rfl⟩ := listed
    obtain ⟨id, item, held, near, around, rfl⟩ := lives.mem_tick_iff.mp sent
    exact ⟨id, item, held, near, around, rfl⟩
  · intro spread
    obtain ⟨id, item, held, near, around, rfl⟩ := spread
    exact ⟨_, lives.mem_tick_iff.mpr ⟨id, item, held, near, around, rfl⟩, rfl⟩

namespace Network
variable {network : Network} {source cell : Coord} {id : String} {item copy : Item}

def isCut (network : Network) (source target : Coord) : Bool :=
  match network.grid.addressOf source, network.grid.addressOf target with
  | .ok first, .ok second => network.cutLinks.contains (first, second)
  | _, _ => false

/-- The copy that one cell gets from another in a round: from a neighbor over an open link, if the
message that carries the item is short enough and the item has energy to spare. -/
def passed? (network : Network) (source target : Coord) (id : String) : Option Item :=
  if source.areNeighbors target ∧ network.isCut source target = false then
    (network.held? source id).bind fun item =>
      if (Message.information source.peerId (item.parcel id)).Fits then
        (item.parcel id).arrival? source.peerId
      else none
  else none

theorem passed?_eq_some_iff : network.passed? source cell id = some copy ↔
    source.areNeighbors cell = true ∧ network.isCut source cell = false ∧
      ∃ item, network.held? source id = some item ∧
        (Message.information source.peerId (item.parcel id)).Fits ∧
          (item.parcel id).arrival? source.peerId = some copy := by
  simp only [passed?, Option.ite_none_right_eq_some, Option.bind_eq_some_iff, and_assoc]

/-- The copy that a cell gets from the first cell, row by row, that passes it one in a round. -/
def firstPassed? (network : Network) (cell : Coord) (id : String) : Option Item :=
  (List.finRange network.grid.cellCount).findSome? fun place =>
    network.passed? (network.grid.cellAt place) cell id

/-- The item that a packet brings to a cell under an id. -/
def brought? (network : Network) (cell : Coord) (id : String) (packet : Packet) : Option Item :=
  (network.handed? cell packet).bind fun arrival => arrival.1.arrival? id

/-- What a cell holds after a delivery it held before, or something in flight brought it. -/
theorem held_of_deliverAll (held : network.deliverAll.held? cell id = some item) :
    network.held? cell id = some item ∨
      ∃ packet ∈ network.inFlight, network.brought? cell id packet = some item := by
  obtain ⟨node, found, stored⟩ := Option.bind_eq_some_iff.mp held
  rw [node?_deliverAll] at found
  obtain ⟨before, was, rfl⟩ := Option.map_eq_some_iff.mp found
  rcases Node.held_of_handleAll stored with early | ⟨⟨message, address⟩, member, brought⟩
  · exact .inl (Option.bind_eq_some_iff.mpr ⟨before, was, early⟩)
  · obtain ⟨packet, inside, given⟩ := mem_handed_iff.mp member
    exact .inr ⟨packet, inside, Option.bind_eq_some_iff.mpr ⟨_, given, brought⟩⟩

theorem isCut_eq_false_iff {first second : Address}
    (from_ : network.grid.addressOf source = .ok first)
    (to_ : network.grid.addressOf cell = .ok second) :
    network.isCut source cell = false ↔ (first, second) ∉ network.cutLinks := by
  simp [isCut, from_, to_]

theorem isCut_of_nil (whole : network.cutLinks = []) : network.isCut source cell = false := by
  rw [isCut, whole]
  split <;> rfl

theorem isCut_of_sameSetting {before after : Network} (same : SameSetting before after)
    (source target : Coord) : after.isCut source target = before.isCut source target := by
  rw [isCut, isCut, same.grid, same.cutLinks]

theorem brought?_eq_some_iff (sound : network.WellFormed) {node : Node} {near : Coord}
    (found : network.node? source = some node) (around : near ∈ network.grid.mooreNeighbors source)
    {sender : String} {parcel : Parcel} :
    network.brought? cell id
        ⟨node.address, (network.grid.neighborAt near).address, .information sender parcel⟩ =
          some copy ↔
      near = cell ∧ network.isCut source near = false ∧
        (Message.information sender parcel).Fits ∧ parcel.id = id ∧
          parcel.arrival? sender = some copy := by
  have inside := (Grid.mem_mooreNeighbors.mp around).1
  have address := Grid.addressOf_neighborAt inside
  have away : (network.grid.neighborAt near).address ≠ network.controller := fun same =>
    sound.controller near (same ▸ address)
  have uncut := isCut_eq_false_iff (sound.livesAt found).address address
  have arrives := Grid.coordAt?_addressOf address
  rw [brought?, Option.bind_eq_some_iff]
  constructor
  · intro brings
    obtain ⟨⟨message, answered⟩, given, brought⟩ := brings
    obtain ⟨free, -, here, sent, -⟩ := handed?_eq_some_iff.mp given
    rw [Message.overWire_information] at sent
    split at sent
    next fits =>
      cases sent
      have same : near = cell := Option.some.inj (arrives.symm.trans here)
      rw [Message.arrival?] at brought
      split at brought
      next named => exact ⟨same, uncut.2 free, fits, named, brought⟩
      · cases brought
    · cases sent
  · intro parts
    obtain ⟨rfl, free, fits, rfl, brought⟩ := parts
    have sent : (Message.information sender parcel).overWire = .ok (.information sender parcel) := by
      rw [Message.overWire_information, if_pos fits]
    have given : network.handed? near
        ⟨node.address, (network.grid.neighborAt near).address, .information sender parcel⟩ =
          some (.information sender parcel, node.address) :=
      handed?_eq_some_iff.mpr ⟨uncut.1 free, away, arrives, sent, rfl⟩
    have named : (Message.information sender parcel).arrival? parcel.id = some copy :=
      (if_pos rfl).trans brought
    exact ⟨_, given, named⟩

theorem exists_brought_iff (sound : network.WellFormed) {node : Node}
    (found : network.node? source = some node) (onGrid : network.grid.contains cell = true) :
    (∃ packet ∈ node.packets, network.brought? cell id packet = some copy) ↔
      network.passed? source cell id = some copy := by
  have lives := sound.livesAt found
  have held (item : Item) : network.held? source id = some item ↔
      node.store.get? id = some item := by rw [held?, found, Option.bind_some]
  rw [passed?_eq_some_iff]
  constructor
  · intro arrival
    obtain ⟨packet, sent, brought⟩ := arrival
    obtain ⟨other, item, stored, near, around, rfl⟩ := lives.mem_packets_iff.mp sent
    obtain ⟨rfl, free, fits, rfl, arrived⟩ := (brought?_eq_some_iff sound found around).1 brought
    exact ⟨(Grid.mem_mooreNeighbors.mp around).2, free, item, (held item).2 stored, fits, arrived⟩
  · intro passing
    obtain ⟨step, free, item, stored, fits, arrived⟩ := passing
    have around := Grid.mem_mooreNeighbors.mpr ⟨onGrid, step⟩
    refine ⟨_, lives.mem_packets_iff.mpr ⟨id, item, (held item).1 stored, cell, around, rfl⟩, ?_⟩
    exact (brought?_eq_some_iff sound found around).2 ⟨rfl, free, fits, rfl, arrived⟩

def sent (network : Network) : List Packet := network.nodes.toList.flatMap Node.packets

theorem toList_nodes (network : Network) : network.nodes.toList =
    (List.finRange network.grid.cellCount).map network.nodes.get := by
  apply List.ext_getElem (by simp)
  intro place left right
  simp [Vector.get]

theorem mem_nodes_iff {node : Node} :
    node ∈ network.nodes.toList ↔ ∃ cell, network.node? cell = some node := by
  rw [toList_nodes, List.mem_map]
  constructor
  · intro listed
    obtain ⟨place, -, rfl⟩ := listed
    exact ⟨_, network.node?_of_place (network.grid.place?_cellAt place)⟩
  · intro found
    obtain ⟨cell, found⟩ := found
    obtain ⟨place, -, rfl⟩ := Option.map_eq_some_iff.mp found
    exact ⟨place, List.mem_finRange place, rfl⟩

theorem flatMap_nodes {Target : Type} (network : Network) (collect : Node → List Target) :
    network.nodes.toList.flatMap collect = network.grid.cells.toList.flatMap fun cell =>
      ((network.node? cell).map collect).getD [] := by
  have listed : network.grid.cells.toList =
      (List.finRange network.grid.cellCount).map network.grid.cellAt := by
    apply List.ext_getElem (by simp)
    intro place left right
    simp [Grid.cells]
  rw [toList_nodes, listed, List.flatMap_map, List.flatMap_map]
  congr
  funext place
  rw [network.node?_of_place (network.grid.place?_cellAt place)]
  rfl

theorem mem_sent_iff {packet : Packet} : packet ∈ network.sent ↔
    ∃ source node, network.node? source = some node ∧ packet ∈ node.packets := by
  simp only [sent, List.mem_flatMap, mem_nodes_iff]
  constructor
  · rintro ⟨node, ⟨source, found⟩, inside⟩
    exact ⟨source, node, found, inside⟩
  · rintro ⟨source, node, found, inside⟩
    exact ⟨node, ⟨source, found⟩, inside⟩

theorem findSome?_sent (sound : network.WellFormed) (onGrid : network.grid.contains cell = true)
    (id : String) :
    network.sent.findSome? (network.brought? cell id) = network.firstPassed? cell id := by
  rw [sent, toList_nodes, findSome?_flatMap, List.findSome?_map, firstPassed?]
  congr
  funext place
  apply findSome?_eq_of_iff
  intro copy
  exact exists_brought_iff sound (network.node?_of_place (network.grid.place?_cellAt place)) onGrid

/-- In a round a node ticks and then handles what was in flight to it and what the ticks sent it. -/
theorem node?_runRound (network : Network) (cell : Coord) :
    network.runRound.node? cell = (network.node? cell).map fun node =>
      node.tick.2.handleAll (network.handed cell (network.inFlight ++ network.sent)) := by
  rw [runRound, node?_deliverAll, node?_tickAll, Option.map_map]
  rfl

theorem inFlight_runRound (network : Network) : network.runRound.inFlight = [] :=
  network.tickAll.inFlight_deliverAll

theorem sameSetting_runRound (network : Network) : SameSetting network network.runRound := by
  have after := network.tickAll.sameSetting_deliverAll
  exact ⟨after.grid, after.controller, after.cutLinks⟩

theorem WellFormed.runRound (sound : network.WellFormed) : network.runRound.WellFormed :=
  sound.tickAll.deliverAll

theorem kind_of_mem_sent (sound : network.WellFormed) {packet : Packet}
    (member : packet ∈ network.sent) : packet.message.kind = .information := by
  obtain ⟨source, node, found, made⟩ := mem_sent_iff.mp member
  obtain ⟨_, _, _, _, _, rfl⟩ := (sound.livesAt found).mem_packets_iff.mp made
  rfl

theorem kind_of_mem_handed_sent (sound : network.WellFormed) {arrival : Message × Address}
    (member : arrival ∈ network.handed cell network.sent) : arrival.1.kind = .information :=
  kind_of_mem_handed (fun _ => kind_of_mem_sent sound) member

theorem alive_tick (node : Node) : node.tick.2.alive = node.alive := by
  rcases Bool.eq_false_or_eq_true node.alive with alive | dead
  · rw [Node.tick_of_alive alive]
  · rw [Node.tick_of_dead dead]

/-- A round with nothing in flight: a dead node stays as it is. An alive one stays alive, counts the
tick, lets its items decay, and takes in what passes first where an id is free. -/
theorem round_cases (sound : network.WellFormed) (quiet : network.inFlight = []) {node : Node}
    (found : network.node? cell = some node) :
    ∃ next, network.runRound.node? cell = some next ∧
      (node.alive = false → next = node) ∧
      (node.alive = true → next.alive = true ∧ next.generation = node.generation + 1 ∧
        ∀ id, next.store.get? id =
          ((node.store.get? id).bind Item.decayed?).or (network.firstPassed? cell id)) := by
  have empty := (sound.livesAt found).emptyIfDead
  have onGrid := contains_of_node? found
  have stepped : network.runRound.node? cell = some (node.tick.2.handleAll
      (network.handed cell (network.inFlight ++ network.sent))) := by
    rw [node?_runRound, found, Option.map_some]
  refine ⟨_, stepped, fun dead => ?_, fun alive => ?_⟩
  · rw [Node.tick_of_dead dead]
    exact Node.handleAll_of_dead dead empty _
  · have ticked : node.tick.2.alive = true := (alive_tick node).trans alive
    have lasting : ∀ arrival ∈ network.handed cell network.sent, arrival.1.kind ≠ .die :=
      fun arrival member die =>
        absurd ((kind_of_mem_handed_sent sound member).symm.trans die) nofun
    rw [quiet, List.nil_append]
    refine ⟨(Node.get?_handleAll ticked lasting "").1, ?_, fun id => ?_⟩
    · rw [Node.generation_handleAll, Node.tick_of_alive alive]
    · rw [(Node.get?_handleAll ticked lasting id).2, Node.get?_tick empty, handed,
        findSome?_filterMap]
      exact congrArg _ (findSome?_sent sound onGrid id)

theorem isAlive_runRound (sound : network.WellFormed) (quiet : network.inFlight = []) (cell : Coord) :
    network.runRound.isAlive cell = network.isAlive cell := by
  cases found : network.node? cell with
  | none => rw [isAlive, isAlive, node?_runRound, found, Option.map_none]
  | some node =>
    obtain ⟨next, after, ifDead, ifAlive⟩ := round_cases sound quiet found
    rw [isAlive, isAlive, after, found, Option.any_some, Option.any_some]
    rcases Bool.eq_false_or_eq_true node.alive with alive | dead
    · rw [alive]
      exact (ifAlive alive).1
    · rw [ifDead dead]

/-- What an alive cell holds after a round with nothing in flight. -/
theorem held?_runRound (sound : network.WellFormed) (quiet : network.inFlight = [])
    (alive : network.isAlive cell = true) (id : String) :
    network.runRound.held? cell id =
      ((network.held? cell id).bind Item.decayed?).or (network.firstPassed? cell id) := by
  obtain ⟨node, found, up⟩ := isAlive_iff.mp alive
  obtain ⟨next, after, -, ifAlive⟩ := round_cases sound quiet found
  rw [held?, held?, after, found, Option.bind_some, Option.bind_some]
  exact (ifAlive up).2.2 id

theorem WellFormed.isAlive_of_held? (sound : network.WellFormed)
    (held : network.held? cell id = some item) : network.isAlive cell = true := by
  obtain ⟨node, found, stored⟩ := Option.bind_eq_some_iff.mp held
  refine isAlive_iff.mpr ⟨node, found, ?_⟩
  rcases Bool.eq_false_or_eq_true node.alive with alive | dead
  · exact alive
  · rw [(sound.livesAt found).emptyIfDead dead] at stored
    cases stored

/-- What a cell holds after a round it held before the round, or something that was in flight
brought it, or a neighbor passed it on. -/
theorem held_of_runRound (sound : network.WellFormed)
    (held : network.runRound.held? cell id = some copy) :
    (∃ item, network.held? cell id = some item ∧ item.decayed? = some copy) ∨
      (∃ packet ∈ network.inFlight, network.brought? cell id packet = some copy) ∨
      ∃ source, network.passed? source cell id = some copy := by
  rcases held_of_deliverAll held with before | ⟨packet, flying, brought⟩
  · obtain ⟨node, found, stored⟩ := Option.bind_eq_some_iff.mp before
    rw [node?_tickAll] at found
    obtain ⟨old, was, rfl⟩ := Option.map_eq_some_iff.mp found
    rw [Node.get?_tick (sound.livesAt was).emptyIfDead] at stored
    obtain ⟨item, kept, decayed⟩ := Option.bind_eq_some_iff.mp stored
    exact .inl ⟨item, Option.bind_eq_some_iff.mpr ⟨old, was, kept⟩, decayed⟩
  · rcases List.mem_append.mp flying with queued | ticked
    · exact .inr (.inl ⟨packet, queued, brought⟩)
    · obtain ⟨source, node, found, made⟩ := mem_sent_iff.mp ticked
      obtain ⟨target, onGrid, -⟩ := Option.bind_eq_some_iff.mp held
      rw [node?_runRound] at onGrid
      obtain ⟨_, there, -⟩ := Option.map_eq_some_iff.mp onGrid
      exact .inr (.inr ⟨source, (exists_brought_iff sound found (contains_of_node? there)).1
        ⟨packet, made, brought⟩⟩)

end Network
end GridDiffusion
