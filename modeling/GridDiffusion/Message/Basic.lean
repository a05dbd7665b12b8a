import GridDiffusion.Message.Status
/-! The messages that nodes and their controllers exchange, one to a datagram. -/
namespace GridDiffusion

inductive MessageKind
  | ping
  | pong
  | information
  | heartbeat
  | die
deriving DecidableEq, Repr

namespace MessageKind

def name : MessageKind → String
  | ping => "ping"
  | pong => "pong"
  | information => "information"
  | heartbeat => "heartbeat"
  | die => "die"

def all : List MessageKind := [ping, pong, information, heartbeat, die]

def ofName? (name : String) : Option MessageKind := all.find? (·.name == name)

end MessageKind

/-- Members of an object that travels with a message and that nodes ignore. -/
abbrev Attributes := List (String × Json.Value)

/-- An item on its way: what it is, and what it may still spend and has travelled. The energy is
signed, because a sender may put anything there; a receiver refuses what is not positive. -/
structure Parcel where
  id : String
  content : String
  energy : Int64
  hops : UInt64
deriving DecidableEq

/-- A decoded datagram. Every message names its sender. -/
inductive Message
  | ping (sender : String) (data : Attributes)
  | pong (sender : String) (status : NodeStatus)
  | information (sender : String) (parcel : Parcel)
  /-- A sign of life without effect. -/
  | heartbeat (sender : String) (data : Attributes)
  | die (sender : String)
deriving DecidableEq

namespace Message

def kind : Message → MessageKind
  | ping .. => .ping
  | pong .. => .pong
  | information .. => .information
  | heartbeat .. => .heartbeat
  | die .. => .die

def sender : Message → String
  | ping sender _ | pong sender _ | information sender _ | heartbeat sender _ | die sender => sender

end Message
end GridDiffusion
