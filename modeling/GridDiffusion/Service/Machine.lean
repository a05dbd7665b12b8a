import GridDiffusion.Admin.Session
import GridDiffusion.Service.Exchange
/-! One machine: the nodes in service on it, and what a program that runs there finds. -/
namespace GridDiffusion

structure Machine where
  link : Link
  services : Services
  source : RandomSource
  /-- The time in seconds. -/
  clock : Nat
  complaint : Complaint

namespace Machine

def sockets (machine : Machine) : Sockets :=
  { Sockets.fresh with inUse := (machine.services.filter (!·.isStopped)).map (·.address) }

def probe (machine : Machine) (host : Host) : Except NodeError Probe := do
  let (address, _) ← (machine.sockets.bind ⟨host, 0, 0⟩).mapError .io
  pure { senderId := controllerId, address, link := machine.link }

def deliver (machine : Machine) (deliveries : List Delivery) : Machine :=
  { machine with services := (machine.services.deliverAll machine.link deliveries).2 }

end Machine
end GridDiffusion
