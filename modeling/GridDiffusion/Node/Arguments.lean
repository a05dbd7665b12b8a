import GridDiffusion.CommandLine.Options
import GridDiffusion.Node.Config
/-! The command line of a single node. -/
namespace GridDiffusion

open CommandLine

structure NodeArguments where
  nodeId : Option String
  gridX : UInt32
  gridY : UInt32
  gridSize : UInt32
  baseAddress : Address
  basePort : Option UInt16
  port : Option UInt16
  tickMs : UInt64
  sendBuffer : UInt64
  receiveBuffer : UInt64
  adminSocket : Option String

def defaultGridSize : UInt32 := 5

def defaultBaseAddress : Address := ⟨.loopback, 9000, 0⟩

namespace NodeArguments

def form : CommandForm where
  options :=
    [⟨"id", .text, some "ROBUST_NODE_ID"⟩, ⟨"grid-x", .word32, some "ROBUST_GRID_X"⟩,
      ⟨"grid-y", .word32, some "ROBUST_GRID_Y"⟩, ⟨"grid-size", .word32, some "ROBUST_GRID_SIZE"⟩,
      ⟨"base-addr", .address, some "ROBUST_BASE_ADDR"⟩,
      ⟨"base-port", .word16, some "ROBUST_BASE_PORT"⟩, ⟨"port", .word16, some "ROBUST_PORT"⟩,
      ⟨"tick-ms", .unsigned, some "ROBUST_TICK_MS"⟩, ⟨"sndbuf", .unsigned, some "ROBUST_SNDBUF"⟩,
      ⟨"rcvbuf", .unsigned, some "ROBUST_RCVBUF"⟩,
      ⟨"admin-socket", .path, some "ROBUST_ADMIN_SOCKET"⟩]

/-- The arguments by their values; the position on the grid has no default. -/
def ofGiven (given : Given) : Except UsageError NodeArguments :=
  match given.word32? "grid-x", given.word32? "grid-y" with
  | some gridX, some gridY => .ok
    { nodeId := given.lookup "id"
      gridX, gridY
      gridSize := (given.word32? "grid-size").getD defaultGridSize
      baseAddress := (given.address? "base-addr").getD defaultBaseAddress
      basePort := given.word16? "base-port"
      port := given.word16? "port"
      tickMs := (given.word64? "tick-ms").getD NodeConfig.defaultTickMs
      sendBuffer := (given.word64? "sndbuf").getD NodeConfig.defaultBuffer
      receiveBuffer := (given.word64? "rcvbuf").getD NodeConfig.defaultBuffer
      adminSocket := given.lookup "admin-socket" }
  | _, _ => .error .missingRequired

def parse (environment : Environment) (words : List String) : Except UsageError NodeArguments := do
  ofGiven (← form.parse environment words)

/-- The configuration that the arguments describe, if they describe a reachable node. -/
def toConfig (arguments : NodeArguments) : Except NodeError NodeConfig := do
  let base := { arguments.baseAddress with
    port := arguments.basePort.getD arguments.baseAddress.port }
  let grid ← (Grid.ofSize arguments.gridSize base).mapError .topology
  let coord : Coord := ⟨arguments.gridX, arguments.gridY⟩
  if !grid.contains coord then .error (.config (.offGrid coord arguments.gridSize))
  else
    let defaults ← NodeConfig.forCell grid coord
    let config := { defaults with
      nodeId := arguments.nodeId.getD defaults.nodeId
      bind := { defaults.bind with port := arguments.port.getD defaults.bind.port }
      tickMs := arguments.tickMs
      sendBuffer := arguments.sendBuffer
      receiveBuffer := arguments.receiveBuffer
      adminSocket := arguments.adminSocket }
    config.validate
    pure config

end NodeArguments
end GridDiffusion
