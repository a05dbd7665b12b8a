import GridDiffusion.Network.Link
import GridDiffusion.Probe.Choice
/-! The end from which a grid is controlled and observed. A probe is no node: it sends what nodes
send, and reads the pongs that come back. -/
namespace GridDiffusion

/-- What a probe calls itself, the address of its socket, and the link that it sends over. -/
structure Probe where
  senderId : String
  address : Address
  link : Link

structure CellDelivery where
  coord : Coord
  delivery : Delivery

structure Seeded extends CellDelivery where
  id : String

namespace Probe

def injection (probe : Probe) (id content : String) (energy : Int64) : Message :=
  .information probe.senderId { id, content, energy, hops := 0 }

def death (probe : Probe) : Message := .die probe.senderId

def request (probe : Probe) : Message := .ping probe.senderId []

def send (probe : Probe) (target : Address) (message : Message) : Except NodeError Delivery :=
  probe.link.send probe.address target message

def sendTo (probe : Probe) (grid : Grid) (coord : Coord) (message : Message) :
    Except NodeError CellDelivery := do
  let target ← (grid.addressOf coord).mapError .topology
  pure ⟨coord, ← probe.send target message⟩

/-- Requests to all cells, row by row. Those that cannot be sent are left out. -/
def requests (probe : Probe) (grid : Grid) : List Delivery :=
  grid.coords.filterMap fun coord =>
    (probe.sendTo grid coord probe.request).toOption.map (·.delivery)

/-- The answer to a request: the first pong from a node's address among what arrives. -/
def answerFrom (target : Address) (arrivals : List Datagram) : Option NodeStatus :=
  (arrivals.filter (·.source = target)).findSome? Datagram.pong?

def seedId (turn stamp : Nat) : String := "info_" ++ turn.repr ++ "_" ++ stamp.repr

def seedContent (turn stamp : Nat) : String :=
  "Information package " ++ turn.repr ++ " seeded at " ++ stamp.repr

/-- Send a batch of new items to random cells. The first failure ends it. -/
def seed (probe : Probe) (grid : Grid) (source : RandomSource) (count : Nat) (energy : Int64)
    (stamp : Nat) : Except NodeError (List Seeded) :=
  (grid.drawCells source count).zipIdx.mapM fun (coord, turn) => do
    let id := seedId turn stamp
    let sent ← probe.sendTo grid coord (probe.injection id (seedContent turn stamp) energy)
    pure { sent with id }

def killRandom (probe : Probe) (grid : Grid) (source : RandomSource) (fraction : Binary64) :
    Except NodeError (List CellDelivery) := do
  (← grid.pickVictims source fraction).mapM fun coord => probe.sendTo grid coord probe.death

end Probe
end GridDiffusion
