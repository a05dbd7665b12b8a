import GridDiffusion.Service.Node
/-! A connection to a node's admin socket. Each line that arrives is answered by one line, in order.
A line that is no command is answered by an error; only a line that is no text ends the
connection. -/
namespace GridDiffusion

def lineEnd : UInt8 := 10

def putByte (byte : UInt8) : List (List UInt8) × List UInt8 → List (List UInt8) × List UInt8
  | (lines, last) =>
    if byte = lineEnd then ([] :: lines, last)
    else match lines with
      | [] => ([], byte :: last)
      | line :: lines => ((byte :: line) :: lines, last)

/-- The complete lines of a stream without their ends, and what follows the last end. -/
def completeLines (bytes : List UInt8) : List (List UInt8) × List UInt8 :=
  bytes.foldr putByte ([], [])

/-- The lines of a stream that has ended; an empty rest is no line. -/
def streamLines (bytes : List UInt8) : List (List UInt8) :=
  let (lines, last) := completeLines bytes
  if last.isEmpty then lines else lines ++ [last]

def isText (line : List UInt8) : Bool := (String.fromUTF8? ⟨line.toArray⟩).isSome

structure AdminSession where
  responses : List AdminResponse
  isOpen : Bool
  service : NodeService

/-- What a reader of commands says of the lines that it cannot read. -/
def Complaint : Type := List UInt8 → String

def Complaint.response (complaint : Complaint) (line : List UInt8) : AdminResponse :=
  .error ("Invalid command: " ++ complaint line)

namespace NodeService

def answerLine (service : NodeService) (complaint : Complaint) (line : List UInt8) :
    AdminResponse × NodeService :=
  match AdminCommand.ofBytes? line with
  | some command => service.execute command
  | none => (complaint.response line, service)

def answerLines (service : NodeService) (complaint : Complaint) : List (List UInt8) → AdminSession
  | [] => ⟨[], true, service⟩
  | line :: rest =>
    if isText line then
      let (response, service) := service.answerLine complaint line
      let session := service.answerLines complaint rest
      { session with responses := response :: session.responses }
    else ⟨[], false, service⟩

def serve (service : NodeService) (complaint : Complaint) (bytes : List UInt8) : AdminSession :=
  service.answerLines complaint (streamLines bytes)

end NodeService

/-- An open connection, and what has arrived on it since the last end of a line. -/
structure AdminConnection where
  pending : List UInt8

namespace AdminConnection

def fresh : AdminConnection := ⟨[]⟩

/-- Take in more bytes and answer the complete lines among them. Answers the connection too, unless
this has ended it. -/
def receive (connection : AdminConnection) (service : NodeService) (complaint : Complaint)
    (bytes : List UInt8) : AdminSession × Option AdminConnection :=
  let (lines, last) := completeLines (connection.pending ++ bytes)
  let session := service.answerLines complaint lines
  (session, if session.isOpen then some ⟨last⟩ else none)

def finish (connection : AdminConnection) (service : NodeService) (complaint : Complaint)
    (bytes : List UInt8) : AdminSession :=
  service.serve complaint (connection.pending ++ bytes)

end AdminConnection
end GridDiffusion
