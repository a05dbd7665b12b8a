import GridDiffusion.Node.Error
import GridDiffusion.Text.Blank
/-! What a node is started with. A configuration is checked in full before the node opens a
socket. -/
namespace GridDiffusion

structure NodeConfig where
  nodeId : String
  grid : Grid
  coord : Coord
  bind : Address
  /-- The time between two ticks in milliseconds. -/
  tickMs : UInt64
  sendBuffer : UInt64
  receiveBuffer : UInt64
  /-- Where the admin socket lies, if there is one. -/
  adminSocket : Option String
deriving DecidableEq

namespace NodeConfig

def defaultTickMs : UInt64 := 1000

def defaultBuffer : UInt64 := 1024 * 1024

/-- The defaults for a cell: its own peer id and its computed address. -/
def forCell (grid : Grid) (coord : Coord) : Except NodeError NodeConfig :=
  match grid.addressOf coord with
  | .error cause => .error (.topology cause)
  | .ok bind => .ok
    { nodeId := coord.peerId, grid, coord, bind, tickMs := defaultTickMs
      sendBuffer := defaultBuffer, receiveBuffer := defaultBuffer, adminSocket := none }

/-- Refuse whatever would leave the node unreachable or idle. Of several faults the first in this
order is reported: the id, the cell, the address, the tick, the buffers. -/
def validate (config : NodeConfig) : Except NodeError Unit :=
  if Text.isBlank config.nodeId then .error (.config .blankId)
  else match config.grid.addressOf config.coord with
    | .error cause => .error (.topology cause)
    | .ok expected =>
      if config.bind ≠ expected then
        .error (.config (.bindMismatch config.bind expected config.coord))
      else if config.tickMs = 0 then .error (.config .zeroTick)
      else if config.sendBuffer = 0 ∨ config.receiveBuffer = 0 then .error (.config .zeroBuffer)
      else .ok ()

end NodeConfig
end GridDiffusion
