import GridDiffusion.Grid.AddressText
import GridDiffusion.Grid.Basic
import GridDiffusion.Message.Codec
import GridDiffusion.Number.Shortest
/-! Why a node refuses a configuration, an operation or a message. -/
namespace GridDiffusion

inductive ConfigError
  | blankId
  | bindMismatch (bind expected : Address) (coord : Coord)
  | zeroTick
  | zeroBuffer
  | offGrid (coord : Coord) (size : UInt32)
deriving DecidableEq

def ConfigError.message : ConfigError → String
  | .blankId => "node id must not be empty"
  | .bindMismatch bind expected coord =>
    "bind address " ++ bind.text ++ " does not match grid address " ++ expected.text ++ " for " ++
      coord.text
  | .zeroTick => "tick interval must be positive"
  | .zeroBuffer => "socket buffers must be positive"
  | .offGrid coord size =>
    "position " ++ coord.text ++ " is outside a " ++ size.toNat.repr ++ "x" ++ size.toNat.repr ++
      " grid"

inductive IoError
  | networkUnreachable
  | addressInUse
  | addressNotAvailable
  | noSuchFile
  /-- A socket file's path is at most 107 bytes long. -/
  | pathTooLong
  | connectionRefused
  | closedWithoutResponse
deriving DecidableEq

def IoError.message : IoError → String
  | .networkUnreachable => "Network is unreachable (os error 101)"
  | .addressInUse => "Address already in use (os error 98)"
  | .addressNotAvailable => "Cannot assign requested address (os error 99)"
  | .pathTooLong => "path must be shorter than SUN_LEN"
  | .noSuchFile => "No such file or directory (os error 2)"
  | .connectionRefused => "Connection refused (os error 111)"
  | .closedWithoutResponse => "admin socket closed without a response"

inductive NodeError
  | config (cause : ConfigError)
  | topology (cause : TopologyError)
  | codec (cause : CodecError)
  | io (cause : IoError)
  /-- What came over an admin socket is no response. -/
  | unreadableResponse
  /-- An injected item has no energy. -/
  | invalidEnergy (energy : UInt64)
  | nodeDead
  | alreadyHeld (id : String)
  /-- A share of the grid does not lie between zero and one. -/
  | invalidFraction (fraction : Binary64)
deriving DecidableEq

def NodeError.message : NodeError → String
  | .config cause => "Invalid configuration: " ++ cause.message
  | .topology cause => "Topology error: " ++ cause.message
  | .codec cause => "Codec error: " ++ cause.message
  | .io cause => "IO error: " ++ cause.message
  | .unreadableResponse => "Serialization error"
  | .invalidEnergy energy =>
    "Invalid energy: " ++ energy.toNat.repr ++ " (must be at least 1)"
  | .nodeDead => "Node is dead"
  | .alreadyHeld id => "Information already held: " ++ id
  | .invalidFraction fraction =>
    "Invalid fraction: " ++ FloatLayout.plain.text fraction ++ " (must be between 0 and 1)"

end GridDiffusion
