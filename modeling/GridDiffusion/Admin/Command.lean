import GridDiffusion.Message.Status
/-! Commands to a node on the same machine, and the responses to them, one document to a line.
Reviving a node is possible in this way only. -/
namespace GridDiffusion

inductive AdminCommand
  | status
  | inject (id content : String) (energy : UInt64)
  | kill
  /-- Bring a dead node back without its items. -/
  | revive
  | shutdown
  | ping
deriving DecidableEq

inductive AdminResponse
  | ok (message : String)
  | error (cause : String)
  | status (node : NodeStatus)
  | pong
deriving DecidableEq

def defaultEnergy : UInt64 := 10

namespace AdminCommand

def name : AdminCommand → String
  | status => "status"
  | inject .. => "inject"
  | kill => "kill"
  | revive => "revive"
  | shutdown => "shutdown"
  | ping => "ping"

def value (command : AdminCommand) : Json.Value :=
  .object <| ("cmd", .text command.name) ::
    match command with
    | inject id content energy =>
      [("info_id", .text id), ("content", .text content), ("energy", .int energy.toNat)]
    | _ => []

def bare : List AdminCommand := [status, kill, revive, shutdown, ping]

def bareOfName? (name : String) : Option AdminCommand := bare.find? (·.name == name)

def injectOfTree? (tree : Json.Tree) : Option AdminCommand := do
  let record ← tree.record? .refused ["info_id", "content", "energy"]
  let id ← record.required "info_id" (·.text?)
  let content ← record.optional "content" "" (·.text?)
  let energy ← record.optional "energy" defaultEnergy (·.word?)
  pure (inject id content energy)

/-- Read a command. All of the tree must be readable, even what the command has no use for. -/
def ofTree? (tree : Json.Tree) : Option AdminCommand :=
  if tree.isReadable Json.depthLimit then
    (tree.tagged? "cmd").bind fun (name, fields) =>
      if name = "inject" then injectOfTree? fields
      else if fields.isBare then bareOfName? name
      else none
  else none

def ofBytes? (line : List UInt8) : Option AdminCommand :=
  (Json.Tree.ofBytes? line).bind ofTree?

def line (command : AdminCommand) : String := command.value.render.push '\n'

end AdminCommand

namespace AdminResponse

def value : AdminResponse → Json.Value
  | ok message => .object [("status", .text "ok"), ("message", .text message)]
  | error cause => .object [("status", .text "error"), ("error", .text cause)]
  | status node => .object [("status", .text "status"), ("node", node.value)]
  | pong => .object [("status", .text "pong")]

def only {Field : Type} (name : String) (read : Json.Tree → Option Field)
    (tree : Json.Tree) : Option Field := do
  (← tree.record? .refused [name]).required name read

/-- Read a response. All of the tree must be readable, even what the response has no use for. -/
def ofTree? (tree : Json.Tree) : Option AdminResponse :=
  if tree.isReadable Json.depthLimit then
    (tree.tagged? "status").bind fun (name, fields) =>
      match name with
      | "ok" => (only "message" (·.text?) fields).map ok
      | "error" => (only "error" (·.text?) fields).map error
      | "status" => (only "node" (NodeStatus.ofTree? .refused) fields).map status
      | "pong" => if fields.isBare then some pong else none
      | _ => none
  else none

def ofBytes? (line : List UInt8) : Option AdminResponse :=
  (Json.Tree.ofBytes? line).bind ofTree?

def line (response : AdminResponse) : String := response.value.render.push '\n'

end AdminResponse
end GridDiffusion
