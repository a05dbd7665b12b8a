import GridDiffusion.Service.Exchange
/-! All nodes of a grid in service on one machine. Every socket is bound before any node counts as
started, so a port that is taken leaves nothing behind. -/
namespace GridDiffusion

structure Launcher where
  grid : Grid
  tickMs : UInt64
  /-- The nodes, row by row. -/
  services : Services
deriving DecidableEq

namespace Launcher

def cellConfig (grid : Grid) (tickMs : UInt64) (coord : Coord) : Except NodeError NodeConfig :=
  (NodeConfig.forCell grid coord).map fun config => { config with tickMs }

/-- Bind the nodes of cells in order. When one fails, the sockets bound before it are closed. -/
def startCells (grid : Grid) (tickMs : UInt64) (sockets : Sockets) :
    List Coord → Except NodeError Services × Sockets
  | [] => (.ok [], sockets)
  | coord :: rest =>
    match (cellConfig grid tickMs coord).bind (NodeService.start · sockets) with
    | .error cause => (.error cause, sockets)
    | .ok (service, sockets) =>
      match startCells grid tickMs sockets rest with
      | (.ok services, sockets) => (.ok (service :: services), sockets)
      | (.error cause, sockets) => (.error cause, sockets.release service.address)

/-- Start every cell of a grid, or none. -/
def start (grid : Grid) (tickMs : UInt64) (sockets : Sockets) :
    Except NodeError Launcher × Sockets :=
  let (started, sockets) := startCells grid tickMs sockets grid.coords
  (started.map fun services => { grid, tickMs, services }, sockets)

def service? (launcher : Launcher) (coord : Coord) : Option NodeService :=
  (launcher.grid.indexOf coord).toOption.bind fun index => launcher.services[index.toNat]?

def setService (launcher : Launcher) (coord : Coord) (service : NodeService) : Launcher :=
  match launcher.grid.indexOf coord with
  | .ok index => { launcher with services := launcher.services.set index.toNat service }
  | .error _ => launcher

def running (launcher : Launcher) : Nat :=
  (launcher.services.filter (!·.isStopped)).length

def stopOne (launcher : Launcher) (coord : Coord) (sockets : Sockets) : Launcher × Sockets :=
  match launcher.service? coord with
  | some service => (launcher.setService coord service.stop, sockets.release service.address)
  | none => (launcher, sockets)

/-- Stop every node and close the sockets. Answers the sockets that are left. -/
def shutdown (launcher : Launcher) (sockets : Sockets) : Sockets :=
  launcher.services.foldl (fun sockets service => sockets.release service.address) sockets

def restart (launcher : Launcher) (sockets : Sockets) : Except NodeError Launcher × Sockets :=
  start launcher.grid launcher.tickMs (launcher.shutdown sockets)

end Launcher
end GridDiffusion
