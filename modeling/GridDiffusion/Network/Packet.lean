import GridDiffusion.Grid.Address
import GridDiffusion.Message.Codec
/-! Messages on their way between two addresses. -/
namespace GridDiffusion

structure Packet where
  source : Address
  target : Address
  message : Message
deriving DecidableEq

/-- What becomes of a message that is written as a datagram and read again. -/
def Message.overWire (message : Message) : Except CodecError Message :=
  message.encode.bind decode

/-- The sender id of whoever controls a grid from outside. -/
def controllerId : String := "controller"

end GridDiffusion
