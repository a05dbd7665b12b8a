import GridDiffusion.Network.Packet
import GridDiffusion.Node.Basic
/-! Datagrams between sockets, and the link that carries them or does not. -/
namespace GridDiffusion

structure Datagram where
  source : Address
  bytes : ByteArray

def Datagram.pong? (datagram : Datagram) : Option NodeStatus :=
  match Message.decode datagram.bytes with
  | .ok (.pong _ status) => some status
  | _ => none

structure Delivery where
  target : Address
  datagram : Datagram

inductive Link
  | up
  | down
deriving DecidableEq, Repr

namespace Link

/-- Hand a message to the link: it is written first, and then it leaves. -/
def transmit (link : Link) (message : Message) : Except NodeError ByteArray :=
  match message.encode with
  | .error cause => .error (.codec cause)
  | .ok bytes =>
    match link with
    | .up => .ok bytes
    | .down => .error (.io .networkUnreachable)

def send (link : Link) (source target : Address) (message : Message) : Except NodeError Delivery :=
  (link.transmit message).map fun bytes => ⟨target, source, bytes⟩

/-- Those of a node's messages that leave it. A message that cannot be sent counts as lost. -/
def carry (link : Link) (source : Address) (messages : List Outgoing) : List Delivery :=
  messages.filterMap fun outgoing => (link.send source outgoing.target outgoing.message).toOption

end Link
end GridDiffusion
