import GridDiffusion.Admin.Session
/-! The other end of an admin socket: one command to a connection, and the response to it. -/
namespace GridDiffusion

/-- The path of a socket file is shorter than this. -/
def socketPathLimit : Nat := 108

/-- Whether a node listens at a socket file. The file is gone once the node is stopped. -/
def NodeService.listensAt (service : NodeService) (path : String) : Bool :=
  service.adminSocket == some path && !service.isStopped

/-- The connection that is open, or a new one to the node's socket file. -/
def NodeService.connect (service : NodeService) (connection : Option AdminConnection)
    (path : String) : Except NodeError AdminConnection :=
  match connection with
  | some connection => .ok connection
  | none => if service.listensAt path then .ok .fresh else .error (.io .noSuchFile)

def NodeService.command (service : NodeService) (complaint : Complaint) (command : AdminCommand) :
    Except NodeError AdminResponse × NodeService :=
  let session := service.serve complaint command.line.toUTF8.toList
  let response := match session.responses with
    | [] => .error (.io .closedWithoutResponse)
    | response :: _ =>
      match AdminResponse.ofBytes? response.line.toUTF8.toList with
      | some response => .ok response
      | none => .error .unreadableResponse
  (response, session.service)

def sendCommand (complaint : Complaint) (path : String) (command : AdminCommand) :
    List NodeService → Except NodeError AdminResponse × List NodeService
  | [] =>
    (.error (.io (if socketPathLimit ≤ path.utf8ByteSize then .pathTooLong else .noSuchFile)), [])
  | service :: rest =>
    if service.listensAt path then
      let (response, service) := service.command complaint command
      (response, service :: rest)
    else
      let (response, rest) := sendCommand complaint path command rest
      (response, service :: rest)

end GridDiffusion
