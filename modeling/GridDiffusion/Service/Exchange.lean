import GridDiffusion.Probe.Survey
import GridDiffusion.Service.Node
/-! Datagrams between the nodes in service on one machine, and between them and a probe. -/
namespace GridDiffusion

abbrev Services := List NodeService

namespace Services

def replace (services : Services) (next : NodeService) : Services :=
  services.map fun service => if service.address = next.address then next else service

/-- Deliver a datagram to the node that is bound to its target. Answers what the node sends back. -/
def deliver (link : Link) (delivery : Delivery) : Services → List Delivery × Services
  | [] => ([], [])
  | service :: rest =>
    if service.address = delivery.target then
      let (reply, service) := service.receive delivery.datagram
      (link.carry service.address reply.toList, service :: rest)
    else
      let (replies, rest) := deliver link delivery rest
      (replies, service :: rest)

def deliverAll (services : Services) (link : Link) (deliveries : List Delivery) :
    List Delivery × Services :=
  deliveries.foldl (fun (replies, services) delivery =>
    let (more, services) := services.deliver link delivery
    (replies ++ more, services)) ([], services)

def tick (services : Services) (link : Link) : List Delivery × Services :=
  let ticks := services.map fun service => (service.address, service.tick)
  (ticks.flatMap fun (address, sent, _) => link.carry address sent,
    ticks.map fun (_, _, next) => next)

def round (services : Services) (link : Link) : Services :=
  let (sent, services) := services.tick link
  (services.deliverAll link sent).2

/-- Send what a probe sends, and answer what comes back to it. -/
def exchange (services : Services) (probe : Probe) (deliveries : List Delivery) :
    List Datagram × Services :=
  let (replies, services) := services.deliverAll probe.link deliveries
  ((replies.filter (·.target = probe.address)).map (·.datagram), services)

def ping (services : Services) (probe : Probe) (target : Address) :
    Except NodeError (Option NodeStatus × Services) := do
  let request ← probe.send target probe.request
  let (arrivals, services) := services.exchange probe [request]
  pure (Probe.answerFrom target arrivals, services)

def survey (services : Services) (probe : Probe) (grid : Grid) : Survey × Services :=
  let (arrivals, services) := services.exchange probe (probe.requests grid)
  (.ofArrivals grid arrivals, services)

/-- Ask all nodes for their statuses, one after the other, without heeding the answers. -/
def callRoll (services : Services) (probe : Probe) : Except NodeError Unit :=
  services.forM fun service => (services.ping probe service.address).map fun _ => ()

end Services

/-- The datagrams for the cells of a grid, cell by cell, those for one cell in order. -/
def Grid.byCell (grid : Grid) (deliveries : List Delivery) : List (Coord × Datagram) :=
  grid.coords.flatMap fun coord =>
    deliveries.filterMap fun delivery =>
      if grid.coordAt? delivery.target = some coord then some (coord, delivery.datagram) else none

end GridDiffusion
