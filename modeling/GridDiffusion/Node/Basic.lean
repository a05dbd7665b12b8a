import GridDiffusion.Grid.Neighborhood
import GridDiffusion.Node.Config
import GridDiffusion.Node.Store
/-! A node as a state machine: it handles messages, ticks, and answers what is to be sent. It holds
no socket and no clock.

A ping is answered even by a dead node. While alive a node takes in items with energy to spend, and
on each tick passes every held item to every neighbor before the items lose energy. -/
namespace GridDiffusion

structure Outgoing where
  target : Address
  message : Message
deriving DecidableEq

inductive Acceptance
  | accepted
  | dead
  | duplicate
  | noEnergy
deriving DecidableEq, Repr

/-- The state of one node. Its identity and neighbors never change. -/
structure Node where
  id : String
  coord : Coord
  address : Address
  neighbors : SortedMap String Neighbor
  alive : Bool
  generation : UInt64
  store : Store
deriving DecidableEq

def saturatingSucc (count : UInt64) : UInt64 := if count + 1 = 0 then count else count + 1

/-- The energy that an item shows to neighbors: what it holds, as far as a signed number goes. -/
def wireEnergy (energy : UInt64) : Int64 := .ofNat (min energy.toNat Int64.maxValue.toInt.toNat)

namespace Node

def ofConfig (config : NodeConfig) : Except NodeError Node := do
  config.validate
  let neighbors ← (config.grid.neighborsOf config.coord).mapError .topology
  pure
    { id := config.nodeId, coord := config.coord, address := config.bind
      neighbors := .ofList (neighbors.map fun neighbor => (neighbor.id, neighbor))
      alive := true, generation := 0, store := .empty }

def status (node : Node) : NodeStatus where
  alive := node.alive
  coord := node.coord
  itemCount := node.store.size
  items := node.store.summaries
  generation := node.generation
  neighbors := node.neighbors.size

def isIdle (node : Node) : Bool := node.alive && node.store.isEmpty

/-- Take in an item from a sender: with one unit of energy spent on the way and one hop more. -/
def receive (node : Node) (sender : String) (parcel : Parcel) : Acceptance × Node :=
  if !node.alive then (.dead, node)
  else if node.store.contains parcel.id then (.duplicate, node)
  else if parcel.energy ≤ 0 then (.noEnergy, node)
  else
    let (admission, store) := node.store.offer parcel.id parcel.content
      (parcel.energy - 1).toUInt64 (saturatingSucc parcel.hops) (.peer sender)
    match admission with
    | .stored => (.accepted, { node with store })
    | .alreadyHeld => (.duplicate, node)
    | .exhausted => (.noEnergy, node)

/-- Fail: stop taking in and passing on, and lose every item. -/
def kill (node : Node) : Node := { node with alive := false, store := .empty }

/-- Come back to life without the lost items. Answers whether the node was dead. -/
def revive (node : Node) : Bool × Node := (!node.alive, { node with alive := true })

def inject (node : Node) (id content : String) (energy : UInt64) : Except NodeError Node :=
  if !node.alive then .error .nodeDead
  else match node.store.offer id content energy 0 .self with
    | (.stored, store) => .ok { node with store }
    | (.alreadyHeld, _) => .error (.alreadyHeld id)
    | (.exhausted, _) => .error (.invalidEnergy energy)

/-- Handle one message. Only a ping is answered, at the address it came from. -/
def handle (node : Node) (message : Message) (sender : Address) : Option Outgoing × Node :=
  match message with
  | .ping .. => (some ⟨sender, .pong node.id node.status⟩, node)
  | .information peer parcel => (none, (node.receive peer parcel).2)
  | .die _ => (none, node.kill)
  | .heartbeat .. | .pong .. => (none, node)

def spreadMessage (node : Node) (id : String) (item : Item) : Message :=
  .information node.id
    { id, content := item.content, energy := wireEnergy item.energy, hops := item.hops }

/-- What one tick sends: every item in id order, to every neighbor in id order. -/
def spread (node : Node) : List Outgoing :=
  node.store.entries.flatMap fun entry =>
    node.neighbors.values.map fun neighbor =>
      ⟨neighbor.address, node.spreadMessage entry.1 entry.2⟩

/-- Pass every item on, then let all of them decay. A dead node does nothing. -/
def tick (node : Node) : List Outgoing × Node :=
  if node.alive then
    (node.spread, { node with store := node.store.decay, generation := node.generation + 1 })
  else ([], node)

end Node
end GridDiffusion
