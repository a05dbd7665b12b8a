import GridDiffusion.Grid.Address
import GridDiffusion.Node.Error
/-! The datagram sockets of one machine. -/
namespace GridDiffusion

/-- Whether every machine has the host for its own: the loopback hosts, and the host that stands for
all. -/
def Host.isLocal : Host → Bool
  | .ipv4 first second third fourth => first = 127 || [first, second, third, fourth] == [0, 0, 0, 0]
  | .ipv6 groups => groups.toList == [0, 0, 0, 0, 0, 0, 0, 1] || groups.toList.all (· == 0)

/-- The ports that a machine gives out on its own, in the order in which it tries them. -/
def sparePorts : List UInt16 := (List.range 28232).map fun step => 32768 + step.toUInt16

structure Sockets where
  /-- The hosts that the machine has for its own. -/
  isOwn : Host → Bool
  inUse : List Address

namespace Sockets

/-- No socket is bound, and the machine has no hosts but those that every machine has. -/
def fresh : Sockets := ⟨Host.isLocal, []⟩

def isFree (sockets : Sockets) (address : Address) : Bool := !sockets.inUse.contains address

/-- The address that a socket gets which asks for one, as long as it is free. Port zero asks for any
free port. -/
def granted? (sockets : Sockets) (wanted : Address) : Option Address :=
  if wanted.port = 0 then
    (sparePorts.find? fun port => sockets.isFree { wanted with port }).map
      ({ wanted with port := · })
  else if sockets.isFree wanted then some wanted
  else none

def bind (sockets : Sockets) (wanted : Address) : Except IoError (Address × Sockets) :=
  if !sockets.isOwn wanted.host then .error .addressNotAvailable
  else match sockets.granted? wanted with
    | some address => .ok (address, { sockets with inUse := address :: sockets.inUse })
    | none => .error .addressInUse

def release (sockets : Sockets) (address : Address) : Sockets :=
  { sockets with inUse := sockets.inUse.filter (· ≠ address) }

end Sockets
end GridDiffusion
