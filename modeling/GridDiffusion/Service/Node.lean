import GridDiffusion.Admin.Command
import GridDiffusion.Network.Link
import GridDiffusion.Service.Sockets
/-! A node in service: its state, the address it is bound to, and whether its loops run. Once it is
stopped it takes nothing in and no longer ticks, but whoever holds it may still ask and change its
state. -/
namespace GridDiffusion

structure NodeService where
  node : Node
  address : Address
  /-- Where its admin socket lies, if it has one. -/
  adminSocket : Option String
  isStopped : Bool
deriving DecidableEq

namespace NodeService

def start (config : NodeConfig) (sockets : Sockets) : Except NodeError (NodeService × Sockets) := do
  let node ← Node.ofConfig config
  let (address, sockets) ← (sockets.bind config.bind).mapError .io
  pure ({ node, address, adminSocket := config.adminSocket, isStopped := false }, sockets)

def stop (service : NodeService) : NodeService := { service with isStopped := true }

/-- Take in a datagram; what is no message is dropped. Answers the reply. -/
def receive (service : NodeService) (datagram : Datagram) : Option Outgoing × NodeService :=
  if service.isStopped then (none, service)
  else match Message.decode datagram.bytes with
    | .error _ => (none, service)
    | .ok message =>
      let (reply, node) := service.node.handle message datagram.source
      (reply, { service with node })

def tick (service : NodeService) : List Outgoing × NodeService :=
  if service.isStopped then ([], service)
  else
    let (sent, node) := service.node.tick
    (sent, { service with node })

def ticks (service : NodeService) (link : Link) : Nat → List Delivery × NodeService
  | 0 => ([], service)
  | count + 1 =>
    let (sent, next) := service.tick
    let (later, last) := next.ticks link count
    (link.carry service.address sent ++ later, last)

/-- Carry out a command. What the node refuses leaves it as it was. -/
def execute (service : NodeService) : AdminCommand → AdminResponse × NodeService
  | .status => (.status service.node.status, service)
  | .inject id content energy =>
    match service.node.inject id content energy with
    | .ok node =>
      (.ok ("Injected '" ++ id ++ "' with energy " ++ energy.toNat.repr), { service with node })
    | .error cause => (.error cause.message, service)
  | .kill =>
    (.ok (service.node.id ++ " is now dead"), { service with node := service.node.kill })
  | .revive =>
    match service.node.revive with
    | (true, node) => (.ok (service.node.id ++ " revived"), { service with node })
    | (false, _) => (.error (service.node.id ++ " is already alive"), service)
  | .shutdown => (.ok (service.node.id ++ " shutting down"), service.stop)
  | .ping => (.pong, service)

end NodeService
end GridDiffusion
