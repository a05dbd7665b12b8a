import GridDiffusion.Message.Basic
/-! Messages as datagrams: a document with the fields `type`, `sender_id`, `data`, `energy` and
`hops`, of at most `datagramLimit` bytes. -/
namespace GridDiffusion

def datagramLimit : Nat := 65507

/-- Why a message cannot be written as a datagram, or a datagram read as a message. -/
inductive CodecError
  /-- The datagram is no document of the five fields. -/
  | malformed
  /-- The fields are right, but the data do not suit the kind. -/
  | payload (kind : MessageKind)
  | notAnObject (kind : MessageKind)
  | oversized (length : Nat)
deriving DecidableEq, Repr

def CodecError.message : CodecError → String
  | .malformed => "malformed datagram"
  | .payload kind => "invalid " ++ kind.name ++ " payload"
  | .notAnObject kind => kind.name ++ " payload must be an object"
  | .oversized length =>
    "encoded message is " ++ length.repr ++ " bytes, over the " ++ datagramLimit.repr ++
      " byte datagram limit"

namespace Message

def dataValue : Message → Json.Value
  | ping _ data | heartbeat _ data => .object data
  | pong _ status => status.sortedValue
  | information _ parcel =>
    .object [("content", .text parcel.content), ("info_id", .text parcel.id)]
  | die _ => .object []

/-- The energy and hops of a message. Kinds other than information carry none. -/
def charge : Message → Int64 × UInt64
  | information _ parcel => (parcel.energy, parcel.hops)
  | _ => (0, 0)

def value (message : Message) : Json.Value :=
  .object [("type", .text message.kind.name), ("sender_id", .text message.sender),
    ("data", message.dataValue), ("energy", .int message.charge.1.toInt),
    ("hops", .int message.charge.2.toNat)]

def text (message : Message) : String := message.value.render

def encode (message : Message) : Except CodecError ByteArray :=
  let bytes := message.text.toUTF8
  if bytes.size ≤ datagramLimit then .ok bytes else .error (.oversized bytes.size)

end Message

/-- The fields of a datagram, before the data are read according to the kind. -/
structure Frame where
  kind : MessageKind
  sender : String
  data : Json.Tree
  energy : Int64
  hops : UInt64

/-- Read the kind: its name, or an object with that one name and the value null. -/
def MessageKind.ofTree? : Json.Tree → Option MessageKind
  | .object [(name, .null)] => name.text?.bind ofName?
  | tree => tree.text?.bind ofName?

namespace Frame

def dataDepth : Nat := Json.depthLimit - 1

/-- Read data of any form, as long as it is a value. -/
def readData? (tree : Json.Tree) : Option Json.Tree :=
  if tree.isReadable dataDepth then some tree else none

/-- Read all five fields; only the first two must be there. -/
def ofTree? (tree : Json.Tree) : Option Frame := do
  let record ← tree.record? .refused ["type", "sender_id", "data", "energy", "hops"]
  let kind ← record.required "type" MessageKind.ofTree?
  let sender ← record.required "sender_id" (·.text?)
  let data ← record.optional "data" (.object []) readData?
  let energy ← record.optional "energy" 0 (·.int? Int64.minValue.toInt Int64.maxValue.toInt)
  let hops ← record.optional "hops" 0 (·.word?)
  pure { kind, sender, data, energy := .ofInt energy, hops }

/-- Read the data as an object, with null for an empty one. -/
def attributes (frame : Frame) : Except CodecError Attributes :=
  match Json.Value.ofTree? dataDepth frame.data with
  | some (.object members) => .ok members
  | some .null => .ok []
  | _ => .error (.notAnObject frame.kind)

def parcel? (frame : Frame) : Option Parcel := do
  let record ← frame.data.record? .lastWins ["info_id", "content"]
  let id ← record.required "info_id" (·.text?)
  let content ← record.optional "content" "" (·.text?)
  pure { id, content, energy := frame.energy, hops := frame.hops }

def message (frame : Frame) : Except CodecError Message :=
  match frame.kind with
  | .ping => frame.attributes.map (.ping frame.sender)
  | .heartbeat => frame.attributes.map (.heartbeat frame.sender)
  | .pong =>
    match NodeStatus.ofTree? .lastWins frame.data with
    | some status => .ok (.pong frame.sender status)
    | none => .error (.payload .pong)
  | .information =>
    match frame.parcel? with
    | some parcel => .ok (.information frame.sender parcel)
    | none => .error (.payload .information)
  | .die => .ok (.die frame.sender)

end Frame

/-- Read one datagram: all fields first, then the data according to the kind. -/
def Message.decode (datagram : ByteArray) : Except CodecError Message :=
  match (Json.Tree.ofBytes? datagram.toList).bind Frame.ofTree? with
  | some frame => frame.message
  | none => .error .malformed

end GridDiffusion
