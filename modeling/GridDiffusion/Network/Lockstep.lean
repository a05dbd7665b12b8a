import GridDiffusion.Network.Packet
import GridDiffusion.Node.Basic
/-! A grid of nodes in lockstep: in a round every node ticks, row by row, and then everything that
was sent is delivered in order. Datagrams go through their written form, and one over a cut link, or
one that cannot be written, is lost. A controller outside the grid sends messages and collects what
is sent back to it. -/
namespace GridDiffusion

inductive NetworkError
  /-- The port below the first cell's is the controller's, and there is none below zero. -/
  | noControllerPort
  | invalidGrid (cause : TopologyError)
  | invalidCell (coord : Coord) (cause : NodeError)
  | offGrid (coord : Coord) (cause : TopologyError)
deriving DecidableEq

def NetworkError.message : NetworkError → String
  | .noControllerPort => "controller needs base_port - 1"
  | .invalidGrid cause => "invalid grid: " ++ cause.message
  | .invalidCell coord cause => "invalid cell " ++ coord.text ++ ": " ++ cause.message
  | .offGrid coord cause => coord.text ++ " is not on the grid: " ++ cause.message

structure Network where
  grid : Grid
  controller : Address
  /-- The nodes, row by row. -/
  nodes : Vector Node grid.cellCount
  /-- Pairs of a source and a target between which everything is lost. -/
  cutLinks : List (Address × Address)
  /-- What has been sent and not delivered, in order. -/
  inFlight : List Packet
  /-- What reached the controller, the latest first, by the address it came from. -/
  inbox : List (Address × Message)
  rounds : Nat
  delivered : Nat
  /-- How many datagrams have been lost. -/
  lost : Nat

namespace Network

def create (size : UInt32) (basePort : UInt16) : Except NetworkError Network := do
  if basePort = 0 then throw .noControllerPort
  let grid ← (Grid.ofSize size ⟨.loopback, basePort, 0⟩).mapError .invalidGrid
  let nodes ← grid.cells.mapM fun coord =>
    ((NodeConfig.forCell grid coord).bind Node.ofConfig).mapError (.invalidCell coord)
  pure
    { grid, controller := ⟨.loopback, basePort - 1, 0⟩, nodes, cutLinks := [], inFlight := []
      inbox := [], rounds := 0, delivered := 0, lost := 0 }

def addressOf (network : Network) (coord : Coord) : Except NetworkError Address :=
  (network.grid.addressOf coord).mapError (.offGrid coord)

def node? (network : Network) (coord : Coord) : Option Node :=
  (network.grid.place? coord).map fun place => network.nodes[place]

def setNode (network : Network) (place : Fin network.grid.cellCount) (node : Node) : Network :=
  { network with nodes := network.nodes.set place node }

def updateNode (network : Network) (coord : Coord) (change : Node → Node) : Network :=
  match network.grid.place? coord with
  | some place => network.setNode place (change network.nodes[place])
  | none => network

def cutLink (network : Network) (left right : Coord) : Except NetworkError Network := do
  let left ← network.addressOf left
  let right ← network.addressOf right
  pure { network with cutLinks := (left, right) :: (right, left) :: network.cutLinks }

/-- Send a message from the controller. It is delivered with the next delivery. -/
def send (network : Network) (coord : Coord) (message : Message) : Except NetworkError Network := do
  let target ← network.addressOf coord
  pure { network with inFlight := network.inFlight ++ [⟨network.controller, target, message⟩] }

def inject (network : Network) (coord : Coord) (id content : String) (energy : Int64) :
    Except NetworkError Network :=
  network.send coord (.information controllerId { id, content, energy, hops := 0 })

def kill (network : Network) (coord : Coord) : Except NetworkError Network :=
  network.send coord (.die controllerId)

def lose (network : Network) : Network := { network with lost := network.lost + 1 }

/-- Deliver one datagram. Answers the datagrams that the delivery sets off. -/
def deliver (network : Network) (packet : Packet) : Network × List Packet :=
  if network.cutLinks.contains (packet.source, packet.target) then (network.lose, [])
  else match packet.message.overWire with
    | .error _ => (network.lose, [])
    | .ok message =>
      let counted := { network with delivered := network.delivered + 1 }
      if packet.target = network.controller then
        ({ counted with inbox := (packet.source, message) :: network.inbox }, [])
      else match (network.grid.coordAt? packet.target).bind network.grid.place? with
        | none => (network.lose, [])
        | some place =>
          let (reply, node) := network.nodes[place].handle message packet.source
          (counted.setNode place node,
            (reply.map fun out => ⟨packet.target, out.target, out.message⟩).toList)

/-- Deliver datagrams in order. Answers all datagrams that this sets off, in order. -/
def deliverEach (network : Network) (packets : List Packet) : Network × List Packet :=
  packets.foldl (fun (network, replies) packet =>
    let (network, more) := network.deliver packet
    (network, replies ++ more)) (network, [])

/-- Deliver whatever is in flight and then the replies to it. Replies are pongs, which set off
nothing more. -/
def deliverAll (network : Network) : Network :=
  let (network, replies) := { network with inFlight := [] }.deliverEach network.inFlight
  let (network, rest) := network.deliverEach replies
  { network with inFlight := rest }

/-- Deliver what the controller has sent, without a tick. -/
def flush (network : Network) : Network := network.deliverAll

/-- The latest message in the inbox from an address, and the inbox without it. -/
def takeFrom? (inbox : List (Address × Message)) (source : Address) :
    Option (Message × List (Address × Message)) :=
  (inbox.find? (·.1 = source)).map fun entry => (entry.2, inbox.eraseP (·.1 = source))

/-- Ask a node for its status now. Whatever else is in flight is delivered first. -/
def ping (network : Network) (coord : Coord) :
    Except NetworkError (Option NodeStatus × Network) := do
  let source ← network.addressOf coord
  let network := (← network.send coord (.ping controllerId [])).deliverAll
  match takeFrom? network.inbox source with
  | none => pure (none, network)
  | some (message, inbox) =>
    let answer := match message with
      | .pong _ status => some status
      | _ => none
    pure (answer, { network with inbox })

def tickAll (network : Network) : Network :=
  let sent := network.nodes.toList.flatMap fun node =>
    node.tick.1.map fun out => ⟨node.address, out.target, out.message⟩
  { network with
    nodes := network.nodes.map (·.tick.2)
    inFlight := network.inFlight ++ sent
    rounds := network.rounds + 1 }

/-- One round: all ticks, then all deliveries. -/
def runRound (network : Network) : Network := network.tickAll.deliverAll

def runRounds (network : Network) : Nat → Network
  | 0 => network
  | count + 1 => network.runRound.runRounds count

/-- Run rounds until a condition holds after one of them, or the limit is reached. Answers the
number of rounds that it took. -/
def runUntil (network : Network) (limit : Nat) (done : Network → Bool) : Option Nat × Network :=
  go limit 1 network
where
  go : Nat → Nat → Network → Option Nat × Network
    | 0, _, network => (none, network)
    | left + 1, round, network =>
      let network := network.runRound
      if done network then (some round, network) else go left (round + 1) network

/-- The cells of the nodes that satisfy a condition, column by column. -/
def cellsWhere (network : Network) (condition : Node → Bool) : List Coord :=
  Coord.sort ((network.nodes.toList.filter condition).map (·.coord))

def holders (network : Network) (id : String) : List Coord :=
  network.cellsWhere (·.store.contains id)

def aliveCells (network : Network) : List Coord := network.cellsWhere (·.alive)

def isQuiet (network : Network) : Bool := network.nodes.toList.all (·.store.isEmpty)

/-- How many items are held, counted once at every node that holds them. -/
def itemsHeld (network : Network) : Nat :=
  network.nodes.toList.foldl (fun total node => total + node.store.size) 0

end Network
end GridDiffusion
