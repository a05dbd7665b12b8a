import GridDiffusion.Proofs.Network.Delivery
/-! Networks in use: the steps that a test takes with a network, the networks that such steps lead
to, and what holds in all of them. -/
namespace GridDiffusion

inductive NetworkAction
  /-- Send a message from the controller. -/
  | send (cell : Coord) (message : Message)
  /-- Send an item from the controller. -/
  | inject (cell : Coord) (id content : String) (energy : Int64)
  /-- Send a command to fail from the controller. -/
  | kill (cell : Coord)
  /-- Inject an item at the node itself. -/
  | localInject (cell : Coord) (id content : String) (energy : UInt64)
  /-- Let a node fail at once. -/
  | localKill (cell : Coord)
  | revive (cell : Coord)
  | cut (left right : Coord)
  | flush
  | ping (cell : Coord)
  | round
deriving DecidableEq

namespace Network

/-- The network after a step. A step that is refused changes nothing. -/
def perform (network : Network) : NetworkAction → Network
  | .send cell message => (network.send cell message).toOption.getD network
  | .inject cell id content energy => (network.inject cell id content energy).toOption.getD network
  | .kill cell => (network.kill cell).toOption.getD network
  | .localInject cell id content energy =>
    network.updateNode cell fun node => (node.inject id content energy).toOption.getD node
  | .localKill cell => network.updateNode cell Node.kill
  | .revive cell => network.updateNode cell fun node => node.revive.2
  | .cut left right => (network.cutLink left right).toOption.getD network
  | .flush => network.flush
  | .ping cell => ((network.ping cell).toOption.map (·.2)).getD network
  | .round => network.runRound

def performAll (network : Network) (actions : List NetworkAction) : Network :=
  actions.foldl perform network

/-- The networks that steps lead to from a new one. -/
inductive Reachable : Network → Prop
  | create {size : UInt32} {basePort : UInt16} {network : Network}
    (made : create size basePort = .ok network) : Reachable network
  | perform {network : Network} (reached : Reachable network) (action : NetworkAction) :
    Reachable (network.perform action)

/-- What holds in every network in use: every node lives at its cell, the controller listens apart
from the nodes, and links are cut in both directions. -/
structure WellFormed (network : Network) : Prop where
  livesAt {cell : Coord} {node : Node} : network.node? cell = some node →
    node.LivesAt network.grid cell
  controller (cell : Coord) : network.grid.addressOf cell ≠ .ok network.controller
  cutBoth {source target : Address} : (source, target) ∈ network.cutLinks →
    (target, source) ∈ network.cutLinks

def fresh (grid : Grid) : Network where
  grid
  controller := ⟨.loopback, grid.base.port - 1, 0⟩
  nodes := grid.cells.map (Node.fresh grid)
  cutLinks := []
  inFlight := []
  inbox := []
  rounds := 0
  delivered := 0
  lost := 0

theorem mapM_cells {grid : Grid} {Target Cause : Type} {step : Coord → Except Cause Target}
    {result : Coord → Target}
    (each : ∀ cell, grid.contains cell = true → step cell = .ok (result cell)) :
    grid.cells.mapM step = .ok (grid.cells.map result) := by
  have listed : grid.cells.toArray.toList.mapM step =
      .ok (grid.cells.toArray.toList.map result) := by
    refine mapM_eq_ok fun cell member => each cell ?_
    rw [Array.mem_toList_iff, Vector.mem_toArray_iff, Grid.cells, Vector.mem_ofFn] at member
    obtain ⟨place, rfl⟩ := member
    exact Grid.contains_cellAt place
  apply Vector.map_toArray_inj.1
  rw [Vector.toArray_mapM, Array.mapM_eq_mapM_toList, listed]
  simp [Functor.map, Except.map, ← Array.toList_map]

variable {network : Network} {size : UInt32} {basePort : UInt16}

theorem create_eq_ok_iff : create size basePort = .ok network ↔
    basePort ≠ 0 ∧ ∃ grid, Grid.ofSize size ⟨.loopback, basePort, 0⟩ = .ok grid ∧
      network = fresh grid := by
  unfold create
  by_cases zero : basePort = 0
  · simp [zero, throw, throwThe, MonadExceptOf.throw, bind, Except.bind]
  · rw [if_neg zero]
    cases made : Grid.ofSize size ⟨.loopback, basePort, 0⟩ with
    | error cause => simp [Except.mapError, bind, Except.bind]
    | ok grid =>
      have base := (Grid.ofSize_eq_ok_iff.mp made).2
      have nodes : grid.cells.mapM (fun coord => ((NodeConfig.forCell grid coord).bind
          Node.ofConfig).mapError (NetworkError.invalidCell coord)) =
            .ok (grid.cells.map (Node.fresh grid)) := by
        apply mapM_cells
        intro cell onGrid
        rw [Node.ofConfig_forCell onGrid]
        rfl
      have started : fresh grid =
          { grid, controller := ⟨.loopback, basePort - 1, 0⟩
            nodes := grid.cells.map (Node.fresh grid), cutLinks := [], inFlight := [], inbox := []
            rounds := 0, delivered := 0, lost := 0 } := by rw [fresh, base]
      simp only [ok_mapError, ok_bind, nodes, pure, Except.pure, ← started]
      simp [zero, eq_comm]

theorem node?_fresh {grid : Grid} {cell : Coord} (onGrid : grid.contains cell = true) :
    (fresh grid).node? cell = some (Node.fresh grid cell) := by
  obtain ⟨place, found⟩ := Grid.exists_place onGrid
  have here : (grid.cells.map (Node.fresh grid))[place] = Node.fresh grid (grid.cellAt place) := by
    rw [Fin.getElem_fin, Vector.getElem_map, Grid.cells, Vector.getElem_ofFn]
  rw [(fresh grid).node?_of_place found]
  exact congrArg some (here.trans (congrArg _ (Grid.cellAt_of_place? found)))

section OnGrid
variable {cell : Coord} {target : Address}

theorem send_eq_ok (found : network.grid.addressOf cell = .ok target) (message : Message) :
    network.send cell message = .ok
      { network with inFlight := network.inFlight ++ [⟨network.controller, target, message⟩] } := by
  rw [send, addressOf, found]
  rfl

theorem cutLink_eq_ok {left right : Coord} {source : Address}
    (found : network.grid.addressOf left = .ok source)
    (otherFound : network.grid.addressOf right = .ok target) : network.cutLink left right = .ok
      { network with cutLinks := (source, target) :: (target, source) :: network.cutLinks } := by
  rw [cutLink, addressOf, addressOf, found, otherFound]
  rfl

theorem ping_eq_ok (found : network.grid.addressOf cell = .ok target) : ∃ sent answer inbox,
    network.send cell (.ping controllerId []) = .ok sent ∧
      network.ping cell = .ok (answer, { sent.deliverAll with inbox }) := by
  have sent := send_eq_ok found (.ping controllerId [])
  have address : network.addressOf cell = .ok target := by rw [addressOf, found]; rfl
  rw [ping, address, sent, ok_bind, ok_bind]
  dsimp only
  split
  · exact ⟨_, _, _, rfl, rfl⟩
  · exact ⟨_, _, _, rfl, rfl⟩

end OnGrid

theorem send_cases (network : Network) (cell : Coord) (message : Message) :
    (∃ target, network.grid.addressOf cell = .ok target ∧ network.send cell message = .ok
        { network with inFlight := network.inFlight ++ [⟨network.controller, target, message⟩] }) ∨
      ∃ cause, network.send cell message = .error cause := by
  cases found : network.grid.addressOf cell with
  | error cause => exact .inr ⟨_, by rw [send, addressOf, found]; rfl⟩
  | ok target => exact .inl ⟨target, rfl, send_eq_ok found message⟩

theorem cutLink_cases (network : Network) (left right : Coord) :
    (∃ source target, network.grid.addressOf left = .ok source ∧
        network.grid.addressOf right = .ok target ∧ network.cutLink left right = .ok
          { network with cutLinks := (source, target) :: (target, source) :: network.cutLinks }) ∨
      ∃ cause, network.cutLink left right = .error cause := by
  cases found : network.grid.addressOf left with
  | error cause => exact .inr ⟨_, by rw [cutLink, addressOf, found]; rfl⟩
  | ok source =>
    cases otherFound : network.grid.addressOf right with
    | error cause => exact .inr ⟨_, by rw [cutLink, addressOf, addressOf, found, otherFound]; rfl⟩
    | ok target => exact .inl ⟨source, target, rfl, rfl, cutLink_eq_ok found otherFound⟩

/-- A ping is refused where sending it is. -/
theorem ping_cases (network : Network) (cell : Coord) :
    (∃ sent answer inbox, network.send cell (.ping controllerId []) = .ok sent ∧
        network.ping cell = .ok (answer, { sent.deliverAll with inbox })) ∨
      ∃ cause, network.send cell (.ping controllerId []) = .error cause ∧
        network.ping cell = .error cause := by
  cases found : network.grid.addressOf cell with
  | error cause =>
    exact .inr ⟨_, by rw [send, addressOf, found]; rfl, by rw [ping, addressOf, found]; rfl⟩
  | ok target => exact .inl (ping_eq_ok found)

theorem node?_tickAll (network : Network) (cell : Coord) :
    network.tickAll.node? cell = (network.node? cell).map (·.tick.2) := by
  cases found : network.grid.place? cell with
  | none =>
    have outside := Grid.place?_eq_none_iff.mp found
    rw [node?_eq_none_iff.mpr outside]
    exact node?_eq_none_iff.mpr outside
  | some place =>
    rw [network.node?_of_place found, network.tickAll.node?_of_place found]
    exact congrArg some (Vector.getElem_map ..)

theorem wellFormed_fresh {grid : Grid} (positive : grid.base.port ≠ 0) :
    (fresh grid).WellFormed where
  livesAt {cell node} found := by
    have onGrid : grid.contains cell = true := contains_of_node? found
    obtain rfl := Option.some.inj ((node?_fresh onGrid).symm.trans found)
    exact Node.livesAt_fresh onGrid
  controller cell address := by
    have port : (grid.base.port - 1).toNat = grid.base.port.toNat + _ := Grid.toNat_port address
    have above : 0 < grid.base.port.toNat := Nat.pos_of_ne_zero fun zero =>
      positive (UInt16.toNat_inj.mp zero)
    have one : (1 : UInt16) ≤ grid.base.port := UInt16.le_iff_toNat_le.mpr above
    rw [UInt16.toNat_sub_of_le _ _ one] at port
    have same : (1 : UInt16).toNat = 1 := rfl
    omega
  cutBoth := nofun

theorem WellFormed.of_sameSetting {before after : Network} (sound : before.WellFormed)
    (same : SameSetting before after)
    (lives : ∀ {cell node}, after.node? cell = some node → node.LivesAt before.grid cell) :
    after.WellFormed where
  livesAt found := same.grid ▸ lives found
  controller cell := same.grid ▸ same.controller ▸ sound.controller cell
  cutBoth := same.cutLinks ▸ sound.cutBoth

theorem WellFormed.deliverAll (sound : network.WellFormed) : network.deliverAll.WellFormed := by
  apply sound.of_sameSetting network.sameSetting_deliverAll
  intro cell node found
  rw [node?_deliverAll] at found
  obtain ⟨before, was, rfl⟩ := Option.map_eq_some_iff.mp found
  exact (sound.livesAt was).handleAll _

theorem WellFormed.tickAll (sound : network.WellFormed) : network.tickAll.WellFormed := by
  have same : SameSetting network network.tickAll := ⟨rfl, rfl, rfl⟩
  apply sound.of_sameSetting same
  intro cell node found
  rw [node?_tickAll] at found
  obtain ⟨before, was, rfl⟩ := Option.map_eq_some_iff.mp found
  exact (sound.livesAt was).tick

theorem sameSetting_updateNode (network : Network) (cell : Coord) (change : Node → Node) :
    SameSetting network (network.updateNode cell change) := by
  unfold updateNode
  split
  · exact ⟨rfl, rfl, rfl⟩
  · exact .refl network

theorem inFlight_updateNode (network : Network) (cell : Coord) (change : Node → Node) :
    (network.updateNode cell change).inFlight = network.inFlight := by
  unfold updateNode
  split <;> rfl

theorem WellFormed.updateNode (sound : network.WellFormed) {cell : Coord} {change : Node → Node}
    (keeps : ∀ {node : Node}, node.LivesAt network.grid cell →
      (change node).LivesAt network.grid cell) : (network.updateNode cell change).WellFormed := by
  apply sound.of_sameSetting (network.sameSetting_updateNode cell change)
  intro other node found
  rw [node?_updateNode] at found
  split at found
  next here =>
    obtain ⟨before, was, rfl⟩ := Option.map_eq_some_iff.mp found
    exact here ▸ keeps (here ▸ sound.livesAt was)
  · exact sound.livesAt found

theorem WellFormed.send (sound : network.WellFormed) (cell : Coord) (message : Message) :
    ((network.send cell message).toOption.getD network).WellFormed := by
  rcases network.send_cases cell message with ⟨target, -, sent⟩ | ⟨cause, refused⟩
  · rw [sent]
    exact ⟨sound.livesAt, sound.controller, sound.cutBoth⟩
  · rw [refused]
    exact sound

theorem WellFormed.cutLink (sound : network.WellFormed) (left right : Coord) :
    ((network.cutLink left right).toOption.getD network).WellFormed := by
  rcases network.cutLink_cases left right with ⟨source, target, -, -, cut⟩ | ⟨cause, refused⟩
  · rw [cut]
    refine ⟨sound.livesAt, sound.controller, fun {first second} member => ?_⟩
    have listed : (first, second) ∈
      (source, target) :: (target, source) :: network.cutLinks := member
    change (second, first) ∈ (source, target) :: (target, source) :: network.cutLinks
    simp only [List.mem_cons, Prod.mk.injEq] at listed ⊢
    rcases listed with ⟨rfl, rfl⟩ | ⟨rfl, rfl⟩ | before
    · exact .inr (.inl ⟨rfl, rfl⟩)
    · exact .inl ⟨rfl, rfl⟩
    · exact .inr (.inr (sound.cutBoth before))
  · rw [refused]
    exact sound

theorem WellFormed.ping (sound : network.WellFormed) (cell : Coord) :
    (((network.ping cell).toOption.map (·.2)).getD network).WellFormed := by
  rcases network.ping_cases cell with ⟨sent, answer, inbox, given, pinged⟩ | ⟨cause, -, refused⟩
  · have start := sound.send cell (.ping controllerId [])
    rw [given] at start
    have delivered := WellFormed.deliverAll start
    rw [pinged]
    exact ⟨delivered.livesAt, delivered.controller, delivered.cutBoth⟩
  · rw [refused]
    exact sound

theorem WellFormed.perform (sound : network.WellFormed) (action : NetworkAction) :
    (network.perform action).WellFormed := by
  cases action with
  | send cell message => exact sound.send cell message
  | inject cell id content energy => exact sound.send cell _
  | kill cell => exact sound.send cell _
  | localInject cell id content energy =>
    rw [Network.perform]
    apply sound.updateNode
    intro node lives
    cases taken : node.inject id content energy with
    | error cause => exact lives
    | ok next => exact lives.inject taken
  | localKill cell => exact sound.updateNode fun lives => lives.kill
  | revive cell => exact sound.updateNode fun lives => lives.revive
  | cut left right => exact sound.cutLink left right
  | flush => exact sound.deliverAll
  | ping cell => exact sound.ping cell
  | round => exact sound.tickAll.deliverAll

theorem Reachable.wellFormed (reached : network.Reachable) : network.WellFormed := by
  induction reached with
  | create made =>
    obtain ⟨positive, grid, found, rfl⟩ := create_eq_ok_iff.mp made
    exact wellFormed_fresh ((Grid.ofSize_eq_ok_iff.mp found).2 ▸ positive)
  | perform _ action sound => exact sound.perform action

theorem Reachable.performAll (reached : network.Reachable) (actions : List NetworkAction) :
    (network.performAll actions).Reachable := by
  induction actions generalizing network with
  | nil => exact reached
  | cons action rest ih => exact ih (reached.perform action)

/-- Every node is a later state of the one that was at its cell. -/
structure KeepsPlaces (before after : Network) : Prop where
  grid : after.grid = before.grid
  node {cell : Coord} {node : Node} : after.node? cell = some node →
    ∃ old, before.node? cell = some old ∧ Node.SamePlace old node

theorem KeepsPlaces.refl (network : Network) : KeepsPlaces network network :=
  ⟨rfl, fun found => ⟨_, found, .refl _⟩⟩

theorem KeepsPlaces.trans {first second third : Network} (left : KeepsPlaces first second)
    (right : KeepsPlaces second third) : KeepsPlaces first third where
  grid := right.grid.trans left.grid
  node found := by
    obtain ⟨middle, was, later⟩ := right.node found
    obtain ⟨old, start, earlier⟩ := left.node was
    exact ⟨old, start, earlier.trans later⟩

theorem KeepsPlaces.of_map {before after : Network} (grid : after.grid = before.grid)
    {change : Coord → Node → Node} (same : ∀ cell node, Node.SamePlace node (change cell node))
    (changed : ∀ cell, after.node? cell = (before.node? cell).map (change cell)) :
    KeepsPlaces before after where
  grid := grid
  node {cell node} found := by
    rw [changed] at found
    obtain ⟨old, was, rfl⟩ := Option.map_eq_some_iff.mp found
    exact ⟨old, was, same cell old⟩

theorem keepsPlaces_deliverAll (network : Network) : KeepsPlaces network network.deliverAll :=
  .of_map network.sameSetting_deliverAll.grid (fun _ node => node.samePlace_handleAll _)
    network.node?_deliverAll

theorem keepsPlaces_tickAll (network : Network) : KeepsPlaces network network.tickAll :=
  .of_map rfl (fun _ node => node.samePlace_tick) network.node?_tickAll

theorem keepsPlaces_updateNode (network : Network) (cell : Coord) {change : Node → Node}
    (same : ∀ node, Node.SamePlace node (change node)) :
    KeepsPlaces network (network.updateNode cell change) where
  grid := (network.sameSetting_updateNode cell change).grid
  node {other node} found := by
    rw [node?_updateNode] at found
    split at found
    · obtain ⟨old, was, rfl⟩ := Option.map_eq_some_iff.mp found
      exact ⟨old, was, same old⟩
    · exact ⟨node, found, .refl node⟩

theorem keepsPlaces_send (network : Network) (cell : Coord) (message : Message) :
    KeepsPlaces network ((network.send cell message).toOption.getD network) := by
  rcases network.send_cases cell message with ⟨target, -, sent⟩ | ⟨cause, refused⟩
  · rw [sent]
    exact ⟨rfl, fun found => ⟨_, found, .refl _⟩⟩
  · rw [refused]
    exact .refl network

theorem keepsPlaces_perform (network : Network) (action : NetworkAction) :
    KeepsPlaces network (network.perform action) := by
  cases action with
  | send cell message => exact network.keepsPlaces_send cell message
  | inject cell id content energy => exact network.keepsPlaces_send cell _
  | kill cell => exact network.keepsPlaces_send cell _
  | localInject cell id content energy =>
    rw [Network.perform]
    apply keepsPlaces_updateNode
    intro node
    cases taken : node.inject id content energy with
    | error cause => exact .refl node
    | ok next => exact Node.samePlace_inject taken
  | localKill cell => exact network.keepsPlaces_updateNode cell Node.samePlace_kill
  | revive cell => exact network.keepsPlaces_updateNode cell Node.samePlace_revive
  | cut left right =>
    rcases network.cutLink_cases left right with ⟨_, _, -, -, cut⟩ | ⟨cause, refused⟩
    · rw [Network.perform, cut]
      exact ⟨rfl, fun found => ⟨_, found, .refl _⟩⟩
    · rw [Network.perform, refused]
      exact .refl network
  | flush => exact network.keepsPlaces_deliverAll
  | ping cell =>
    rcases network.ping_cases cell with ⟨sent, answer, inbox, given, pinged⟩ | ⟨cause, -, refused⟩
    · have start := network.keepsPlaces_send cell (.ping controllerId [])
      rw [given] at start
      have delivered := KeepsPlaces.trans start sent.keepsPlaces_deliverAll
      rw [Network.perform, pinged]
      exact ⟨delivered.grid, delivered.node⟩
    · rw [Network.perform, refused]
      exact .refl network
  | round => exact network.keepsPlaces_tickAll.trans network.tickAll.keepsPlaces_deliverAll

/-- Every node of a network in use is a later state of the one that its cell started with. -/
theorem Reachable.samePlace_fresh (reached : network.Reachable) {cell : Coord} {node : Node}
    (found : network.node? cell = some node) :
    Node.SamePlace (Node.fresh network.grid cell) node := by
  induction reached generalizing node with
  | create made =>
    obtain ⟨-, grid, -, rfl⟩ := create_eq_ok_iff.mp made
    have onGrid : grid.contains cell = true := contains_of_node? found
    obtain rfl := Option.some.inj ((node?_fresh onGrid).symm.trans found)
    exact .refl _
  | @perform start _ action ih =>
    have keeps := start.keepsPlaces_perform action
    obtain ⟨old, was, same⟩ := keeps.node found
    rw [keeps.grid]
    exact (ih was).trans same

theorem isAlive_iff {cell : Coord} : network.isAlive cell = true ↔
    ∃ node, network.node? cell = some node ∧ node.alive = true := by
  simp [isAlive, Option.any_eq_true]

theorem contains_of_isAlive {cell : Coord} (alive : network.isAlive cell = true) :
    network.grid.contains cell = true := by
  obtain ⟨_, found, -⟩ := isAlive_iff.mp alive
  exact contains_of_node? found

/-- An alive cell takes in a new item with energy under a free id, and nothing else changes. -/
theorem perform_localInject {cell : Coord} {id : String} {energy : UInt64}
    (alive : network.isAlive cell = true) (free : network.held? cell id = none)
    (charged : energy ≠ 0) (content : String) :
    ∃ item : Item, item.content = content ∧ item.energy = energy ∧
      item.hops = 0 ∧ item.provenance = .self ∧
      (∀ other otherId, (network.perform (.localInject cell id content energy)).held? other otherId =
        if other = cell ∧ otherId = id then some item else network.held? other otherId) ∧
      (∀ other, (network.perform (.localInject cell id content energy)).isAlive other =
        network.isAlive other) ∧
      SameSetting network (network.perform (.localInject cell id content energy)) ∧
      (network.perform (.localInject cell id content energy)).inFlight = network.inFlight := by
  obtain ⟨node, found, up⟩ := isAlive_iff.mp alive
  have unheld : node.store.get? id = none := by
    rw [held?, found, Option.bind_some] at free
    exact free
  let item : Item := ⟨content, energy, 0, .self, charged⟩
  have made : Item.of? content energy 0 .self = some item :=
    Item.of?_eq_some_iff.mpr ⟨rfl, rfl, rfl, rfl⟩
  have taken := Node.inject_eq_ok_iff.mpr ⟨up, unheld, item, made, rfl⟩
  have after (other : Coord) : (network.perform (.localInject cell id content energy)).node? other =
      if cell = other then some { node with store := node.store.insert id item }
      else network.node? other := by
    rw [perform, node?_updateNode]
    split
    next here => rw [← here, found, Option.map_some, taken]; rfl
    · rfl
  refine ⟨item, rfl, rfl, rfl, rfl, fun other otherId => ?_, fun other => ?_,
    ?_, network.inFlight_updateNode cell _⟩
  · rw [held?, after]
    by_cases here : cell = other
    · subst here
      rw [if_pos rfl, Option.bind_some, SortedMap.get?_insert, held?, found, Option.bind_some]
      simp
    · rw [if_neg here, if_neg fun both => here both.1.symm, held?]
  · rw [isAlive, isAlive, after]
    by_cases here : cell = other
    · subst here
      rw [if_pos rfl, found]
      rfl
    · rw [if_neg here]
  · rw [perform]
    exact network.sameSetting_updateNode cell _

theorem reachable_fresh {grid : Grid} {port : UInt16} (base : grid.base = ⟨.loopback, port, 0⟩)
    (positive : port ≠ 0) : (fresh grid).Reachable := by
  have made : Grid.ofSize grid.size ⟨.loopback, port, 0⟩ = .ok grid :=
    Grid.ofSize_eq_ok_iff.mpr ⟨rfl, base⟩
  exact .create (create_eq_ok_iff.mpr ⟨positive, grid, made, rfl⟩)

theorem held?_fresh (grid : Grid) (cell : Coord) (id : String) :
    (fresh grid).held? cell id = none := by
  cases found : (fresh grid).node? cell with
  | none => rw [held?, found, Option.bind_none]
  | some node =>
    have onGrid : grid.contains cell = true := contains_of_node? found
    obtain rfl := Option.some.inj ((node?_fresh onGrid).symm.trans found)
    rw [held?, found, Option.bind_some]
    rfl

theorem isAlive_fresh {grid : Grid} {cell : Coord} (onGrid : grid.contains cell = true) :
    (fresh grid).isAlive cell = true :=
  isAlive_iff.mpr ⟨_, node?_fresh onGrid, rfl⟩

end Network

end GridDiffusion
