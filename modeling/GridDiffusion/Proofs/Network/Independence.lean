import GridDiffusion.Proofs.Network.Round
import GridDiffusion.Proofs.Node.Without
/-! Items do not get in each other's way: a run goes on in the same way for all other items when
every step that brings an item of a hidden id is left out. -/
namespace GridDiffusion

theorem Message.itemId?_overWire {message arrived : Message} (sent : message.overWire = .ok arrived) :
    arrived.itemId? = message.itemId? := by
  have kind := kind_overWire sent
  cases arrived with
  | information sender parcel => rw [of_overWire_information sent]
  | ping | pong | heartbeat | die =>
    cases message with
    | information => cases kind
    | ping | pong | heartbeat | die => rfl

def NetworkAction.itemId? : NetworkAction → Option String
  | .send _ message => message.itemId?
  | .inject _ id _ _ | .localInject _ id _ _ => some id
  | .kill _ | .localKill _ | .revive _ | .cut _ _ | .flush | .ping _ | .round => none

/-- Messages about hidden items leave no trace in what the node is without them. -/
theorem Node.without_handleAll (node : Node) (hidden : String → Bool)
    (arrivals : List (Message × Address)) : (node.handleAll arrivals).without hidden =
      (node.without hidden).handleAll
        (arrivals.filter fun arrival => !arrival.1.itemId?.any hidden) := by
  induction arrivals generalizing node with
  | nil => rfl
  | cons arrival rest ih =>
    have next : node.handleAll (arrival :: rest) =
        (node.handle arrival.1 arrival.2).2.handleAll rest := rfl
    rw [next, ih, List.filter_cons]
    cases veiled : arrival.1.itemId?.any hidden with
    | false => rw [without_handle veiled]; rfl
    | true => rw [without_handle_of_hidden veiled]; rfl

namespace Network
variable {network left right : Network} {hidden : String → Bool}

def inFlightWithout (network : Network) (hidden : String → Bool) : List Packet :=
  network.inFlight.filter fun packet => !packet.message.itemId?.any hidden

/-- Two networks that differ in items of hidden ids alone, and in what pongs tell about them. -/
structure AgreesOutside (hidden : String → Bool) (left right : Network) : Prop where
  setting : SameSetting left right
  rounds : right.rounds = left.rounds
  nodes (cell : Coord) :
    (right.node? cell).map (·.without hidden) = (left.node? cell).map (·.without hidden)
  inFlight : right.inFlightWithout hidden = left.inFlightWithout hidden

theorem AgreesOutside.refl (hidden : String → Bool) (network : Network) :
    AgreesOutside hidden network network := ⟨.refl network, rfl, fun _ => rfl, rfl⟩

theorem AgreesOutside.trans {first second third : Network}
    (near : AgreesOutside hidden first second) (far : AgreesOutside hidden second third) :
    AgreesOutside hidden first third where
  setting := near.setting.trans far.setting
  rounds := far.rounds.trans near.rounds
  nodes cell := (far.nodes cell).trans (near.nodes cell)
  inFlight := far.inFlight.trans near.inFlight

theorem handed_filter (network : Network) (hidden : String → Bool) (cell : Coord)
    (packets : List Packet) :
    network.handed cell (packets.filter fun packet => !packet.message.itemId?.any hidden) =
      (network.handed cell packets).filter fun arrival => !arrival.1.itemId?.any hidden := by
  rw [handed, handed, List.filterMap_filter, List.filter_filterMap]
  congr
  funext packet
  cases given : network.handed? cell packet with
  | none => rw [ite_self, Option.filter_none]
  | some arrival =>
    obtain ⟨-, -, -, sent, -⟩ := handed?_eq_some_iff.mp given
    rw [Option.filter_some, Message.itemId?_overWire sent]

theorem rounds_deliverEach (network : Network) (packets : List Packet) :
    (network.deliverEach packets).1.rounds = network.rounds := by
  induction packets generalizing network with
  | nil => rfl
  | cons packet rest ih =>
    rw [deliverEach_cons, ih]
    rcases network.deliver_cases packet with ⟨-, _, _, _, same⟩ | ⟨_, _, -, -, same⟩ <;> rw [same]
    rfl

theorem rounds_deliverAll (network : Network) : network.deliverAll.rounds = network.rounds := by
  have first := rounds_deliverEach { network with inFlight := [] } network.inFlight
  have second := rounds_deliverEach
    ({ network with inFlight := [] }.deliverEach network.inFlight).1
    ({ network with inFlight := [] }.deliverEach network.inFlight).2
  exact second.trans first

theorem without_deliverAll (network : Network) (hidden : String → Bool) (cell : Coord) :
    (network.deliverAll.node? cell).map (·.without hidden) =
      ((network.node? cell).map (·.without hidden)).map
        (·.handleAll (network.handed cell (network.inFlightWithout hidden))) := by
  rw [node?_deliverAll, Option.map_map, Option.map_map, inFlightWithout, handed_filter]
  exact Option.map_congr fun node _ => node.without_handleAll hidden _

theorem AgreesOutside.deliverAll (agree : AgreesOutside hidden left right) :
    AgreesOutside hidden left.deliverAll right.deliverAll where
  setting := (left.sameSetting_deliverAll.symm.trans agree.setting).trans
    right.sameSetting_deliverAll
  rounds := by rw [rounds_deliverAll, rounds_deliverAll, agree.rounds]
  nodes cell := by
    have given : right.handed cell = left.handed cell := by
      funext packets
      exact List.filterMap_congr fun packet _ => handed?_of_sameSetting agree.setting cell packet
    rw [without_deliverAll, without_deliverAll, agree.nodes, agree.inFlight, given]
  inFlight := by rw [inFlightWithout, inFlightWithout, inFlight_deliverAll, inFlight_deliverAll]

theorem filter_packets (node : Node) (hidden : String → Bool) :
    node.packets.filter (fun packet => !packet.message.itemId?.any hidden) =
      (node.without hidden).packets := by
  rw [Node.packets, Node.packets, ← node.filter_tick hidden, List.filter_map]
  rfl

theorem filter_sent (network : Network) (hidden : String → Bool) :
    network.sent.filter (fun packet => !packet.message.itemId?.any hidden) =
      network.grid.cells.toList.flatMap fun cell =>
        (((network.node? cell).map (·.without hidden)).map Node.packets).getD [] := by
  rw [sent, List.filter_flatMap, flatMap_nodes]
  congr
  funext cell
  rw [Option.map_map]
  exact congrArg (Option.getD · []) (Option.map_congr fun node _ => filter_packets node hidden)

theorem AgreesOutside.tickAll (agree : AgreesOutside hidden left right) :
    AgreesOutside hidden left.tickAll right.tickAll where
  setting := ⟨agree.setting.grid, agree.setting.controller, agree.setting.cutLinks⟩
  rounds := congrArg (· + 1) agree.rounds
  nodes cell := by
    have each (network : Network) : (network.tickAll.node? cell).map (·.without hidden) =
        ((network.node? cell).map (·.without hidden)).map (·.tick.2) := by
      rw [node?_tickAll, Option.map_map, Option.map_map]
      exact Option.map_congr fun node _ => node.without_tick hidden
    rw [each, each, agree.nodes]
  inFlight := by
    have each (network : Network) : network.tickAll.inFlightWithout hidden =
        network.inFlightWithout hidden ++
          network.sent.filter fun packet => !packet.message.itemId?.any hidden :=
      List.filter_append ..
    have sent : right.sent.filter (fun packet => !packet.message.itemId?.any hidden) =
        left.sent.filter fun packet => !packet.message.itemId?.any hidden := by
      rw [filter_sent, filter_sent, agree.setting.grid]
      congr
      funext cell
      rw [agree.nodes]
    rw [each, each, agree.inFlight, sent]

theorem rounds_updateNode (network : Network) (cell : Coord) (change : Node → Node) :
    (network.updateNode cell change).rounds = network.rounds := by
  unfold updateNode
  split <;> rfl

/-- A change at one cell, made to both networks, in which hidden items play no part. -/
theorem AgreesOutside.updateNode (agree : AgreesOutside hidden left right) {change : Node → Node}
    (apart : ∀ node, (change node).without hidden = change (node.without hidden)) (cell : Coord) :
    AgreesOutside hidden (left.updateNode cell change) (right.updateNode cell change) where
  setting := ((left.sameSetting_updateNode cell change).symm.trans agree.setting).trans
    (right.sameSetting_updateNode cell change)
  rounds := by rw [rounds_updateNode, rounds_updateNode, agree.rounds]
  nodes other := by
    have each (network : Network) :
        ((network.updateNode cell change).node? other).map (·.without hidden) =
          if cell = other then ((network.node? other).map (·.without hidden)).map change
          else (network.node? other).map (·.without hidden) := by
      rw [node?_updateNode]
      split
      · rw [Option.map_map, Option.map_map]
        exact Option.map_congr fun node _ => apart node
      · rfl
    rw [each, each, agree.nodes]
  inFlight := by
    rw [inFlightWithout, inFlightWithout, inFlight_updateNode, inFlight_updateNode]
    exact agree.inFlight

/-- A change at one cell that touches hidden items alone. -/
theorem agreesOutside_updateNode {change : Node → Node}
    (hides : ∀ node, (change node).without hidden = node.without hidden) (cell : Coord) :
    AgreesOutside hidden (network.updateNode cell change) network where
  setting := (network.sameSetting_updateNode cell change).symm
  rounds := (network.rounds_updateNode cell change).symm
  nodes other := by
    rw [node?_updateNode]
    split
    · rw [Option.map_map]
      exact Option.map_congr fun node _ => (hides node).symm
    · rfl
  inFlight := by rw [inFlightWithout, inFlightWithout, inFlight_updateNode]

theorem addressOf_of_sameSetting {before after : Network} (same : SameSetting before after)
    (cell : Coord) : after.addressOf cell = before.addressOf cell := by
  rw [addressOf, addressOf, same.grid]

theorem AgreesOutside.send (agree : AgreesOutside hidden left right) (cell : Coord)
    (message : Message) : AgreesOutside hidden ((left.send cell message).toOption.getD left)
      ((right.send cell message).toOption.getD right) := by
  rw [Network.send, Network.send, addressOf_of_sameSetting agree.setting]
  cases left.addressOf cell with
  | error cause => exact agree
  | ok target =>
    refine ⟨⟨agree.setting.grid, agree.setting.controller, agree.setting.cutLinks⟩, agree.rounds,
      agree.nodes, ?_⟩
    have queued (network : Network) : inFlightWithout { network with inFlight :=
          network.inFlight ++ [⟨network.controller, target, message⟩] } hidden =
        network.inFlightWithout hidden ++ [⟨network.controller, target, message⟩].filter
          fun packet : Packet => !packet.message.itemId?.any hidden := List.filter_append ..
    exact (queued right).trans (by rw [agree.inFlight, agree.setting.controller, ← queued left]; rfl)

theorem agreesOutside_send {message : Message} (veiled : message.itemId?.any hidden = true)
    (cell : Coord) :
    AgreesOutside hidden ((network.send cell message).toOption.getD network) network := by
  rw [Network.send]
  cases network.addressOf cell with
  | error cause => exact .refl hidden network
  | ok target =>
    refine ⟨⟨rfl, rfl, rfl⟩, rfl, fun _ => rfl, ?_⟩
    have queued : inFlightWithout { network with inFlight :=
          network.inFlight ++ [⟨network.controller, target, message⟩] } hidden =
        network.inFlightWithout hidden ++ [⟨network.controller, target, message⟩].filter
          fun packet : Packet => !packet.message.itemId?.any hidden := List.filter_append ..
    exact (queued.trans (by simp [veiled])).symm

theorem AgreesOutside.cutLink (agree : AgreesOutside hidden left right) (first second : Coord) :
    AgreesOutside hidden ((left.cutLink first second).toOption.getD left)
      ((right.cutLink first second).toOption.getD right) := by
  rw [Network.cutLink, Network.cutLink, addressOf_of_sameSetting agree.setting,
    addressOf_of_sameSetting agree.setting]
  cases left.addressOf first with
  | error cause => exact agree
  | ok source =>
    cases left.addressOf second with
    | error cause => exact agree
    | ok target =>
      exact ⟨⟨agree.setting.grid, agree.setting.controller,
        congrArg ((source, target) :: (target, source) :: ·) agree.setting.cutLinks⟩, agree.rounds,
        agree.nodes, agree.inFlight⟩

/-- A ping of a cell delivers everything, and takes at most a pong out of the inbox. -/
theorem ping_of_address {cell : Coord} {source : Address}
    (found : network.addressOf cell = .ok source) :
    ∃ inbox, ((network.ping cell).toOption.map (·.2)).getD network =
      { ((network.send cell (.ping controllerId [])).toOption.getD network).deliverAll with inbox } := by
  rw [Network.ping, Network.send, found]
  simp only [ok_bind, pure, Except.pure]
  split
  · exact ⟨_, rfl⟩
  · exact ⟨_, rfl⟩

theorem AgreesOutside.ping (agree : AgreesOutside hidden left right) (cell : Coord) :
    AgreesOutside hidden (((left.ping cell).toOption.map (·.2)).getD left)
      (((right.ping cell).toOption.map (·.2)).getD right) := by
  have address := addressOf_of_sameSetting agree.setting cell
  cases found : left.addressOf cell with
  | error cause =>
    rw [Network.ping, Network.ping, address, found]
    exact agree
  | ok source =>
    obtain ⟨leftInbox, leftPinged⟩ := ping_of_address found
    obtain ⟨rightInbox, rightPinged⟩ := ping_of_address (address.trans found)
    have delivered := (agree.send cell (.ping controllerId [])).deliverAll
    have setting := delivered.setting
    rw [leftPinged, rightPinged]
    exact ⟨⟨setting.grid, setting.controller, setting.cutLinks⟩, delivered.rounds, delivered.nodes,
      delivered.inFlight⟩

theorem AgreesOutside.perform (agree : AgreesOutside hidden left right) {action : NetworkAction}
    (shown : action.itemId?.any hidden = false) :
    AgreesOutside hidden (left.perform action) (right.perform action) := by
  cases action with
  | send cell message => exact agree.send cell message
  | inject cell id content energy => exact agree.send cell _
  | kill cell => exact agree.send cell _
  | localInject cell id content energy =>
    rw [Network.perform, Network.perform]
    apply agree.updateNode
    intro node
    rw [Node.without_inject shown]
    cases node.inject id content energy <;> rfl
  | localKill cell => exact agree.updateNode (fun node => node.without_kill hidden) cell
  | revive cell => exact agree.updateNode (fun node => node.without_revive hidden) cell
  | cut first second => exact agree.cutLink first second
  | flush => exact agree.deliverAll
  | ping cell => exact agree.ping cell
  | round => exact agree.tickAll.deliverAll

theorem agreesOutside_perform {action : NetworkAction} (veiled : action.itemId?.any hidden = true) :
    AgreesOutside hidden (network.perform action) network := by
  cases action with
  | send cell message => exact agreesOutside_send veiled cell
  | inject cell id content energy => exact agreesOutside_send veiled cell
  | localInject cell id content energy =>
    rw [Network.perform]
    apply agreesOutside_updateNode
    intro node
    cases taken : node.inject id content energy with
    | error cause => rfl
    | ok next => exact Node.without_inject_of_hidden veiled taken
  | kill | localKill | revive | cut | flush | ping | round => cases veiled

theorem AgreesOutside.performAll (agree : AgreesOutside hidden left right)
    (actions : List NetworkAction) : AgreesOutside hidden (left.performAll actions)
      (right.performAll (actions.filter fun action => !action.itemId?.any hidden)) := by
  induction actions generalizing left right with
  | nil => exact agree
  | cons action rest ih =>
    rw [List.filter_cons]
    cases veiled : action.itemId?.any hidden with
    | false => exact ih (agree.perform veiled)
    | true => exact ih ((agreesOutside_perform veiled).trans agree)

/-- What an injection at a cell answers, where there is a node. -/
def injectAnswer (network : Network) (cell : Coord) (id content : String) (energy : UInt64) :
    Option (Except NodeError Unit) :=
  (network.node? cell).map fun node => (node.inject id content energy).map fun _ => ()

/-- Whether a revival finds a cell's node dead, where there is a node. -/
def reviveAnswer (network : Network) (cell : Coord) : Option Bool :=
  (network.node? cell).map fun node => node.revive.1

/-- Two networks that cannot be told apart by anything but items of hidden ids, pongs and the counts
of datagrams. -/
structure LooksAlike (hidden : String → Bool) (left right : Network) : Prop where
  setting : SameSetting left right
  rounds : right.rounds = left.rounds
  alive (cell : Coord) : (right.node? cell).map (·.alive) = (left.node? cell).map (·.alive)
  generation (cell : Coord) :
    (right.node? cell).map (·.generation) = (left.node? cell).map (·.generation)
  held (cell : Coord) {id : String} : hidden id = false → right.held? cell id = left.held? cell id
  injectAnswer (cell : Coord) {id : String} (content : String) (energy : UInt64) :
    hidden id = false →
      right.injectAnswer cell id content energy = left.injectAnswer cell id content energy
  reviveAnswer (cell : Coord) : right.reviveAnswer cell = left.reviveAnswer cell
  inFlight : right.inFlightWithout hidden = left.inFlightWithout hidden

theorem AgreesOutside.map_node? {Target : Type} (agree : AgreesOutside hidden left right)
    {view : Node → Target} (blind : ∀ node, view (node.without hidden) = view node) (cell : Coord) :
    (right.node? cell).map view = (left.node? cell).map view := by
  have through (network : Network) : ((network.node? cell).map (·.without hidden)).map view =
      (network.node? cell).map view := by
    rw [Option.map_map]
    exact Option.map_congr fun node _ => blind node
  rw [← through, ← through left, agree.nodes]

theorem AgreesOutside.looksAlike (agree : AgreesOutside hidden left right) :
    LooksAlike hidden left right where
  setting := agree.setting
  rounds := agree.rounds
  alive := agree.map_node? fun _ => rfl
  generation := agree.map_node? fun _ => rfl
  held cell id shown := by
    have same : (right.node? cell).map (fun node => node.store.get? id) =
        (left.node? cell).map fun node => node.store.get? id :=
      agree.map_node? (fun _ => Store.get?_without_of_shown shown) cell
    have through (network : Network) : network.held? cell id =
        ((network.node? cell).map fun node => node.store.get? id).bind fun found => found := by
      rw [held?, Option.bind_map]
      rfl
    rw [through, through left, same]
  injectAnswer cell id content energy shown := by
    refine agree.map_node? (fun node => ?_) cell
    rw [Node.without_inject shown]
    cases node.inject id content energy <;> rfl
  reviveAnswer := agree.map_node? fun _ => rfl
  inFlight := agree.inFlight

/-- Leaving out all steps that bring items of hidden ids, by injection or in a message, changes
nothing that can be seen of other items: after the same steps every node is alive or not and has
ticked as often as in the whole run, it holds the same copies of other items, injections of them and
revivals are answered alike, and the same is in flight. -/
theorem looksAlike_performAll (network : Network) (hidden : String → Bool)
    (actions : List NetworkAction) : LooksAlike hidden (network.performAll actions)
      (network.performAll (actions.filter fun action => !action.itemId?.any hidden)) :=
  ((AgreesOutside.refl hidden network).performAll actions).looksAlike

end Network
end GridDiffusion
