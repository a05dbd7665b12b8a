import GridDiffusion.Network.Link
import GridDiffusion.Proofs.Message.Wire
import GridDiffusion.Proofs.Node.Cell
/-! A swarm: the nodes of a grid without a common clock. Nodes tick one at a time, and the datagrams
between them may overtake each other, arrive more than once, or never. -/
namespace GridDiffusion

/-- One node for each cell of a grid, and the datagrams that are on their way. -/
structure Swarm (grid : Grid) where
  nodes : Fin grid.cellCount → Node
  bag : List Delivery

inductive SwarmStep (grid : Grid)
  | tick (place : Fin grid.cellCount)
  /-- A datagram arrives. Where it is kept, it may arrive again. -/
  | deliver (index : Nat) (keep : Bool)
  | lose (index : Nat)
  /-- Someone sends a message that is no item: a ping, a heartbeat, a command to fail. -/
  | send (source target : Address) (message : Message) (plain : message.kind ≠ .information)
  | kill (place : Fin grid.cellCount)
  | revive (place : Fin grid.cellCount)
  | inject (place : Fin grid.cellCount) (id content : String) (energy : UInt64)

namespace Swarm
variable {grid : Grid}

def setNode (swarm : Swarm grid) (place : Fin grid.cellCount) (node : Node) : Swarm grid :=
  { swarm with nodes := fun other => if place = other then node else swarm.nodes other }

/-- The place of the node that listens at an address. -/
def listener? (swarm : Swarm grid) (address : Address) : Option (Fin grid.cellCount) :=
  (List.finRange grid.cellCount).find? fun place => (swarm.nodes place).address = address

def put (swarm : Swarm grid) (source : Address) (messages : List Outgoing) : Swarm grid :=
  { swarm with bag := swarm.bag ++ Link.up.carry source messages }

/-- Hand a datagram to the node at its target. What is no message is dropped. -/
def receive (swarm : Swarm grid) (delivery : Delivery) : Swarm grid :=
  match swarm.listener? delivery.target, Message.decode delivery.datagram.bytes with
  | some place, .ok message =>
    let (reply, node) := (swarm.nodes place).handle message delivery.datagram.source
    (swarm.setNode place node).put delivery.target reply.toList
  | _, _ => swarm

/-- The swarm after a step. A step that cannot be taken changes nothing. -/
def step (swarm : Swarm grid) : SwarmStep grid → Swarm grid
  | .tick place =>
    let (sent, node) := (swarm.nodes place).tick
    (swarm.setNode place node).put (swarm.nodes place).address sent
  | .deliver index keep =>
    match swarm.bag[index]? with
    | some delivery =>
      { swarm with bag := if keep then swarm.bag else swarm.bag.eraseIdx index }.receive delivery
    | none => swarm
  | .lose index => { swarm with bag := swarm.bag.eraseIdx index }
  | .send source target message _ => swarm.put source [⟨target, message⟩]
  | .kill place => swarm.setNode place (swarm.nodes place).kill
  | .revive place => swarm.setNode place (swarm.nodes place).revive.2
  | .inject place id content energy =>
    match (swarm.nodes place).inject id content energy with
    | .ok node => swarm.setNode place node
    | .error _ => swarm

def run (swarm : Swarm grid) (steps : List (SwarmStep grid)) : Swarm grid := steps.foldl step swarm

/-- A swarm whose nodes have just been started from the defaults of their cells. -/
structure IsFresh (swarm : Swarm grid) : Prop where
  started (place : Fin grid.cellCount) :
    (NodeConfig.forCell grid (grid.cellAt place)).bind Node.ofConfig = .ok (swarm.nodes place)
  bag : swarm.bag = []

def fresh (grid : Grid) : Swarm grid := ⟨fun place => Node.fresh grid (grid.cellAt place), []⟩

theorem isFresh_fresh (grid : Grid) : (fresh grid).IsFresh :=
  ⟨fun place => Node.ofConfig_forCell (Grid.contains_cellAt place), rfl⟩

variable {swarm : Swarm grid}

theorem IsFresh.node_eq (fresh : swarm.IsFresh) (place : Fin grid.cellCount) :
    swarm.nodes place = Node.fresh grid (grid.cellAt place) :=
  Except.ok.inj ((fresh.started place).symm.trans (Node.ofConfig_forCell (Grid.contains_cellAt place)))

theorem node_setNode (swarm : Swarm grid) (place other : Fin grid.cellCount) (node : Node) :
    (swarm.setNode place node).nodes other = if place = other then node else swarm.nodes other :=
  rfl

theorem address_of_listener? {address : Address} {place : Fin grid.cellCount}
    (found : swarm.listener? address = some place) : (swarm.nodes place).address = address := by
  simpa using List.find?_some found

theorem step_inject {place : Fin grid.cellCount} {id content : String} {energy : UInt64} {node : Node}
    (taken : (swarm.nodes place).inject id content energy = .ok node) :
    swarm.step (.inject place id content energy) = swarm.setNode place node := by
  rw [step, taken]

/-- A datagram that arrives is handled by the node at its target, whether it is kept or not. -/
theorem nodes_step_deliver {index : Nat} (keep : Bool) {delivery : Delivery} {message : Message}
    {place : Fin grid.cellCount} (carried : swarm.bag[index]? = some delivery)
    (listening : swarm.listener? delivery.target = some place)
    (decoded : Message.decode delivery.datagram.bytes = .ok message) :
    (swarm.step (.deliver index keep)).nodes place =
      ((swarm.nodes place).handle message delivery.datagram.source).2 := by
  have same : listener? ⟨swarm.nodes, if keep then swarm.bag else swarm.bag.eraseIdx index⟩
      delivery.target = some place := listening
  rw [step, carried]
  dsimp only
  rw [receive, same, decoded]
  exact if_pos rfl

/-- How a step may change a node: by a tick, a datagram to its address, or what is done to it. -/
inductive NodeChange (swarm : Swarm grid) (place : Fin grid.cellCount) :
    SwarmStep grid → Node → Prop
  | none {step : SwarmStep grid} : NodeChange swarm place step (swarm.nodes place)
  | tick : NodeChange swarm place (.tick place) (swarm.nodes place).tick.2
  | handle {step : SwarmStep grid} {delivery : Delivery} {message : Message}
    (carried : delivery ∈ swarm.bag) (here : (swarm.nodes place).address = delivery.target)
    (decoded : Message.decode delivery.datagram.bytes = .ok message) :
    NodeChange swarm place step ((swarm.nodes place).handle message delivery.datagram.source).2
  | kill : NodeChange swarm place (.kill place) (swarm.nodes place).kill
  | revive : NodeChange swarm place (.revive place) (swarm.nodes place).revive.2
  | inject {id content : String} {energy : UInt64} {node : Node}
    (taken : (swarm.nodes place).inject id content energy = .ok node) :
    NodeChange swarm place (.inject place id content energy) node

theorem NodeChange.samePlace {place : Fin grid.cellCount} {step : SwarmStep grid} {node : Node}
    (change : NodeChange swarm place step node) : Node.SamePlace (swarm.nodes place) node := by
  cases change with
  | none => exact .refl _
  | tick => exact Node.samePlace_tick _
  | handle carried here decoded => exact Node.samePlace_handle ..
  | kill => exact Node.samePlace_kill _
  | revive => exact Node.samePlace_revive _
  | inject taken => exact Node.samePlace_inject taken

theorem NodeChange.emptyIfDead {place : Fin grid.cellCount} {step : SwarmStep grid} {node : Node}
    (change : NodeChange swarm place step node) (empty : (swarm.nodes place).EmptyIfDead) :
    node.EmptyIfDead := by
  cases change with
  | none => exact empty
  | tick => exact empty.tick
  | handle carried here decoded => exact empty.handle _ _
  | kill => exact Node.emptyIfDead_kill _
  | revive => exact Node.emptyIfDead_revive _
  | inject taken => exact Node.emptyIfDead_inject taken

theorem nodeChange_of_setNode {place other : Fin grid.cellCount} {step : SwarmStep grid} {node : Node}
    (change : NodeChange swarm place step node) :
    NodeChange swarm other step ((swarm.setNode place node).nodes other) := by
  rw [node_setNode]
  split
  next same => exact same ▸ change
  · exact .none

theorem nodeChange_step (swarm : Swarm grid) (step : SwarmStep grid) (place : Fin grid.cellCount) :
    NodeChange swarm place step ((swarm.step step).nodes place) := by
  cases step with
  | tick ticking => exact nodeChange_of_setNode .tick
  | deliver index keep =>
    rw [Swarm.step]
    split
    next delivery found =>
      rw [receive]
      split
      next listener message listening decoded =>
        have change : NodeChange swarm listener (.deliver index keep)
            ((swarm.nodes listener).handle message delivery.datagram.source).2 :=
          .handle (List.mem_of_getElem? found) (address_of_listener? listening) decoded
        exact nodeChange_of_setNode change
      · exact .none
    · exact .none
  | lose index => exact .none
  | send source target message plain => exact .none
  | kill killed => exact nodeChange_of_setNode .kill
  | revive revived => exact nodeChange_of_setNode .revive
  | inject injected id content energy =>
    rw [Swarm.step]
    split
    next node taken => exact nodeChange_of_setNode (.inject taken)
    · exact .none

/-- Where a datagram in the bag may come from: it was there before, a tick sent it, or it is no
item. -/
inductive Source (swarm : Swarm grid) (delivery : Delivery) : SwarmStep grid → Prop
  | before {step : SwarmStep grid} (carried : delivery ∈ swarm.bag) : Source swarm delivery step
  | tick {place : Fin grid.cellCount} (sent : delivery ∈ Link.up.carry (swarm.nodes place).address
      (swarm.nodes place).tick.1) : Source swarm delivery (.tick place)
  | plain {step : SwarmStep grid} {source : Address} {messages : List Outgoing}
      (plain : ∀ outgoing ∈ messages, outgoing.message.kind ≠ .information)
      (sent : delivery ∈ Link.up.carry source messages) : Source swarm delivery step

theorem source_of_mem_step {step : SwarmStep grid} {delivery : Delivery}
    (carried : delivery ∈ (swarm.step step).bag) : Source swarm delivery step := by
  cases step with
  | tick ticking =>
    rcases List.mem_append.mp carried with old | new
    · exact .before old
    · exact .tick new
  | deliver index keep =>
    have kept : ∀ other ∈ (if keep then swarm.bag else swarm.bag.eraseIdx index),
        other ∈ swarm.bag := by
      intro other member
      split at member
      · exact member
      · exact List.mem_of_mem_eraseIdx member
    rw [Swarm.step] at carried
    split at carried
    next found =>
      rw [receive] at carried
      split at carried
      next listener message listening decoded =>
        rcases List.mem_append.mp carried with old | new
        · exact .before (kept _ old)
        · refine .plain (fun outgoing answered => ?_) new
          rw [Node.kind_of_reply answered]
          exact nofun
      · exact .before (kept _ carried)
    · exact .before carried
  | lose index => exact .before (List.mem_of_mem_eraseIdx carried)
  | send source target message plain =>
    rcases List.mem_append.mp carried with old | new
    · exact .before old
    · exact .plain (by simpa using plain) new
  | kill killed => exact .before carried
  | revive revived => exact .before carried
  | inject injected id content energy =>
    rw [Swarm.step] at carried
    split at carried <;> exact .before carried

/-- A datagram reads as what came over the wire from the message that it was written from. -/
theorem mem_carry_iff {source : Address} {messages : List Outgoing} {delivery : Delivery} :
    delivery ∈ Link.up.carry source messages ↔ ∃ outgoing ∈ messages, ∃ bytes,
      outgoing.message.encode = .ok bytes ∧ delivery = ⟨outgoing.target, source, bytes⟩ := by
  rw [Link.carry, List.mem_filterMap]
  refine exists_congr fun outgoing => and_congr_right fun _ => ?_
  rw [Link.send, Link.transmit]
  cases outgoing.message.encode with
  | error cause => simp [Except.map, Except.toOption]
  | ok bytes => simp [Except.map, Except.toOption, eq_comm]

theorem carry_of_fits {source : Address} {messages : List Outgoing}
    (fits : ∀ outgoing ∈ messages, outgoing.message.Fits) : Link.up.carry source messages =
      messages.map fun outgoing => ⟨outgoing.target, source, outgoing.message.text.toUTF8⟩ := by
  rw [Link.carry, ← List.filterMap_eq_map]
  refine List.filterMap_congr fun outgoing member => ?_
  rw [Link.send, Link.transmit, Message.encode_of_fits (fits outgoing member)]
  rfl

theorem decode_of_mem_carry {source : Address} {messages : List Outgoing} {delivery : Delivery}
    {message : Message} (sent : delivery ∈ Link.up.carry source messages)
    (decoded : Message.decode delivery.datagram.bytes = .ok message) :
    ∃ outgoing ∈ messages, delivery.target = outgoing.target ∧
      outgoing.message.overWire = .ok message := by
  obtain ⟨outgoing, member, bytes, encoded, rfl⟩ := mem_carry_iff.mp sent
  exact ⟨outgoing, member, rfl, by rw [Message.overWire, encoded]; exact decoded⟩

def IsSettled (swarm : Swarm grid) : Prop :=
  ∀ place : Fin grid.cellCount, (swarm.nodes place).LivesAt grid (grid.cellAt place)

theorem IsFresh.isSettled (fresh : swarm.IsFresh) : swarm.IsSettled := by
  intro place
  rw [fresh.node_eq]
  exact Node.livesAt_fresh (Grid.contains_cellAt place)

theorem IsSettled.step (settled : swarm.IsSettled) (step : SwarmStep grid) :
    (swarm.step step).IsSettled := by
  intro place
  have change := nodeChange_step swarm step place
  exact (settled place).of_samePlace change.samePlace
    (change.emptyIfDead (settled place).emptyIfDead)

theorem run_append (swarm : Swarm grid) (first second : List (SwarmStep grid)) :
    swarm.run (first ++ second) = (swarm.run first).run second := List.foldl_append

end Swarm
end GridDiffusion
