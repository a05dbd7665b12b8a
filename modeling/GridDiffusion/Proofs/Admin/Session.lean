import GridDiffusion.Proofs.Admin.RoundTrip
/-! A connection to an admin socket: each line is answered by one line, a line that is no command
changes nothing, and only a line that is no text ends the connection. How the stream was cut into
pieces on its way makes no difference. -/
namespace GridDiffusion

namespace NodeService

/-- What a command does to a node in service, and how it is answered. -/
inductive Performs (service : NodeService) : AdminCommand → AdminResponse → NodeService → Prop
  | status : Performs service .status (.status service.node.status) service
  | injected {id content : String} {energy : UInt64} {item : Item}
    (alive : service.node.alive = true) (free : service.node.store.get? id = none)
    (made : Item.of? content energy 0 .self = some item) :
    Performs service (.inject id content energy)
      (.ok ("Injected '" ++ id ++ "' with energy " ++ energy.toNat.repr))
      { service with node := { service.node with store := service.node.store.insert id item } }
  | refused {id content : String} {energy : UInt64} {cause : NodeError}
    (refuses : service.node.Refuses id energy cause) :
    Performs service (.inject id content energy) (.error cause.message) service
  | killed : Performs service .kill (.ok (service.node.id ++ " is now dead"))
      { service with node := { service.node with alive := false, store := .empty } }
  | revived (dead : service.node.alive = false) :
    Performs service .revive (.ok (service.node.id ++ " revived"))
      { service with node := { service.node with alive := true } }
  | alive (alive : service.node.alive = true) :
    Performs service .revive (.error (service.node.id ++ " is already alive")) service
  | shutdown : Performs service .shutdown (.ok (service.node.id ++ " shutting down"))
      { service with isStopped := true }
  | ping : Performs service .ping .pong service

theorem performs_iff {service next : NodeService} {command : AdminCommand}
    {response : AdminResponse} :
    service.Performs command response next ↔ service.execute command = (response, next) := by
  constructor
  · intro performs
    cases performs with
    | injected alive free made =>
      rw [execute, Node.inject_eq_ok_iff.mpr ⟨alive, free, _, made, rfl⟩]
    | refused refuses => rw [execute, Node.inject_eq_error_iff.mpr refuses]
    | revived dead => rw [execute, Node.revive, dead]; rfl
    | alive alive => rw [execute, Node.revive, alive]; rfl
    | status | killed | shutdown | ping => rfl
  · intro performed
    cases command with
    | status => cases performed; exact .status
    | inject id content energy =>
      rw [execute] at performed
      split at performed
      next node taken =>
        obtain ⟨alive, free, item, made, rfl⟩ := Node.inject_eq_ok_iff.mp taken
        cases performed
        exact .injected alive free made
      next cause refused =>
        cases performed
        exact .refused (Node.inject_eq_error_iff.mp refused)
    | kill => cases performed; exact .killed
    | revive =>
      rw [execute, Node.revive] at performed
      rcases Bool.eq_false_or_eq_true service.node.alive with alive | dead
      · rw [alive] at performed
        cases performed
        exact .alive alive
      · rw [dead] at performed
        cases performed
        exact .revived dead
    | shutdown => cases performed; exact .shutdown
    | ping => cases performed; exact .ping

/-- Lines and the responses to them: a command does what it does, and what is no command is refused
and changes nothing. -/
inductive Answers (complaint : Complaint) :
    NodeService → List (List UInt8) → List AdminResponse → NodeService → Prop
  | nil {service : NodeService} : Answers complaint service [] [] service
  | command {service next last : NodeService} {line : List UInt8} {lines : List (List UInt8)}
    {command : AdminCommand} {response : AdminResponse} {responses : List AdminResponse}
    (spelled : command.IsSpelled line) (performs : service.Performs command response next)
    (later : Answers complaint next lines responses last) :
    Answers complaint service (line :: lines) (response :: responses) last
  | unread {service last : NodeService} {line : List UInt8} {lines : List (List UInt8)}
    {responses : List AdminResponse} (none : ∀ command : AdminCommand, ¬ command.IsSpelled line)
    (later : Answers complaint service lines responses last) :
    Answers complaint service (line :: lines) (complaint.response line :: responses) last

theorem Answers.length_eq {complaint : Complaint} {service last : NodeService}
    {lines : List (List UInt8)} {responses : List AdminResponse}
    (answers : Answers complaint service lines responses last) :
    responses.length = lines.length := by
  induction answers with
  | nil => rfl
  | command _ _ _ ih | unread _ _ ih => rw [List.length_cons, List.length_cons, ih]

/-- The first line is answered as a line is, and the others as the state is then. -/
theorem answers_cons_iff {complaint : Complaint} {service last : NodeService}
    {line : List UInt8} {lines : List (List UInt8)} {responses : List AdminResponse} :
    Answers complaint service (line :: lines) responses last ↔ ∃ later,
      responses = (service.answerLine complaint line).1 :: later ∧
        Answers complaint (service.answerLine complaint line).2 lines later last := by
  cases read : AdminCommand.ofBytes? line with
  | none =>
    have none := AdminCommand.ofBytes?_eq_none_iff.mp read
    have unread : service.answerLine complaint line = (complaint.response line, service) := by
      rw [answerLine, read]
    rw [unread]
    constructor
    · intro answers
      cases answers with
      | command spelled _ _ => exact absurd spelled (none _)
      | unread _ later => exact ⟨_, rfl, later⟩
    · rintro ⟨later, rfl, answers⟩
      exact .unread none answers
  | some command =>
    have spelled := AdminCommand.ofBytes?_eq_some_iff.mp read
    have executed : service.answerLine complaint line = service.execute command := by
      rw [answerLine, read]
    rw [executed]
    constructor
    · intro answers
      cases answers with
      | command again performs later =>
        cases read.symm.trans (AdminCommand.ofBytes?_eq_some_iff.mpr again)
        rw [performs_iff.mp performs]
        exact ⟨_, rfl, later⟩
      | unread none _ => exact absurd spelled (none command)
    · rintro ⟨later, rfl, answers⟩
      exact .command spelled (performs_iff.mpr rfl) answers

/-- Lines that are texts are all answered, and the connection stays open. -/
theorem answerLines_eq_iff {complaint : Complaint} {service last : NodeService}
    {lines : List (List UInt8)} {responses : List AdminResponse} (texts : ∀ line ∈ lines, IsText line) :
    service.answerLines complaint lines = ⟨responses, true, last⟩ ↔
      Answers complaint service lines responses last := by
  induction lines generalizing service responses with
  | nil =>
    refine ⟨fun same => ?_, fun answers => ?_⟩
    · cases same
      exact .nil
    · cases answers
      rfl
  | cons line lines ih =>
    obtain ⟨text, others⟩ := List.forall_mem_cons.mp texts
    rw [answers_cons_iff, answerLines, if_pos (isText_iff.mpr text)]
    simp only [← ih others]
    generalize (service.answerLine complaint line).2.answerLines complaint lines = session
    obtain ⟨later, isOpen, final⟩ := session
    simp [eq_comm]

theorem answerLines_append (service : NodeService) (complaint : Complaint)
    (front back : List (List UInt8)) :
    service.answerLines complaint (front ++ back) =
      let first := service.answerLines complaint front
      if first.isOpen then
        let second := first.service.answerLines complaint back
        { second with responses := first.responses ++ second.responses }
      else first := by
  induction front generalizing service with
  | nil => rfl
  | cons line front ih =>
    rw [List.cons_append, answerLines, answerLines]
    by_cases text : isText line
    · simp only [if_pos text, ih]
      split <;> rfl
    · simp only [if_neg text, Bool.false_eq_true, if_false]

theorem isOpen_answerLines (service : NodeService) (complaint : Complaint)
    {lines : List (List UInt8)} (texts : ∀ line ∈ lines, IsText line) :
    (service.answerLines complaint lines).isOpen = true := by
  induction lines generalizing service with
  | nil => rfl
  | cons line lines ih =>
    obtain ⟨text, others⟩ := List.forall_mem_cons.mp texts
    rw [answerLines, if_pos (isText_iff.mpr text)]
    exact ih _ others

/-- A line that is no text is not answered, and none after it. -/
theorem answerLines_broken (service : NodeService) (complaint : Complaint)
    {before after : List (List UInt8)} {broken : List UInt8} (texts : ∀ line ∈ before, IsText line)
    (unread : ¬ IsText broken) :
    service.answerLines complaint (before ++ broken :: after) =
      { service.answerLines complaint before with isOpen := false } := by
  have stops : isText broken = false := Bool.eq_false_iff.mpr (unread ∘ isText_iff.mp)
  simp [answerLines_append, isOpen_answerLines service complaint texts, answerLines, stops]

end NodeService

namespace AdminConnection

/-- A stream that comes in pieces, the last of them when the other side is done. -/
def run (connection : AdminConnection) (service : NodeService) (complaint : Complaint) :
    List (List UInt8) → List UInt8 → AdminSession
  | [], last => connection.finish service complaint last
  | piece :: pieces, last =>
    match connection.receive service complaint piece with
    | (session, some next) =>
      let later := next.run session.service complaint pieces last
      { later with responses := session.responses ++ later.responses }
    | (session, none) => session

/-- Pieces are answered as the stream that they make up. -/
theorem run_eq_serve (connection : AdminConnection) (service : NodeService)
    (complaint : Complaint) (pieces : List (List UInt8)) (last : List UInt8) :
    connection.run service complaint pieces last =
      service.serve complaint (connection.pending ++ (pieces.flatten ++ last)) := by
  induction pieces generalizing connection service with
  | nil => rfl
  | cons piece pieces ih =>
    rcases cut : completeLines (connection.pending ++ piece) with ⟨lines, rest⟩
    have whole : connection.pending ++ ((piece :: pieces).flatten ++ last) =
        connection.pending ++ piece ++ (pieces.flatten ++ last) := by
      rw [List.flatten_cons, List.append_assoc, List.append_assoc]
    rw [run, receive, whole, NodeService.serve, streamLines_append cut,
      NodeService.answerLines_append]
    by_cases going : (service.answerLines complaint lines).isOpen
    · simp only [cut, if_pos going, ih]
      rfl
    · simp only [cut, if_neg going]

end AdminConnection

def AdminSession.written (session : AdminSession) : List UInt8 :=
  session.responses.flatMap fun response => response.line.toUTF8.toList

/-- A session settles lines: each of them is answered, in their order and in one way only, and what
is written are as many lines. -/
structure AdminSession.Settles (session : AdminSession) (service : NodeService)
    (complaint : Complaint) (lines : List (List UInt8)) : Prop where
  answers : NodeService.Answers complaint service lines session.responses session.service
  only : ∀ responses last, NodeService.Answers complaint service lines responses last →
    responses = session.responses ∧ last = session.service
  each : session.responses.length = lines.length
  written : IsSplit session.written
    (session.responses.map fun response => Text.bytes response.value.render) []

theorem AdminSession.isSplit_written (session : AdminSession) : IsSplit session.written
    (session.responses.map fun response => Text.bytes response.value.render) [] where
  joined := by simp only [written, AdminResponse.line, bytes_render_push, List.flatMap_map,
    List.append_nil]
  unbroken := by
    refine List.forall_mem_map.mpr fun response _ => ?_
    exact response.value.isUnbroken_render
  unended := List.not_mem_nil

namespace NodeService

theorem settles_answerLines (service : NodeService) (complaint : Complaint)
    {lines : List (List UInt8)} (texts : ∀ line ∈ lines, IsText line) (isOpen : Bool) :
    AdminSession.Settles { service.answerLines complaint lines with isOpen } service complaint
      lines := by
  have whole : service.answerLines complaint lines =
      ⟨(service.answerLines complaint lines).responses, true,
        (service.answerLines complaint lines).service⟩ := by
    rw [← service.isOpen_answerLines complaint texts]
  have answers := (answerLines_eq_iff texts).mp whole
  refine ⟨answers, fun responses last again => ?_, answers.length_eq, AdminSession.isSplit_written _⟩
  have same := (answerLines_eq_iff texts).mpr again
  rw [same]
  exact ⟨rfl, rfl⟩

/-- A stream is answered line by line. While its lines are texts, each of them has its response,
that of its command in the state that the lines before it have left, or a refusal that changes
nothing if it is no command. The first line that is no text ends the connection, with all lines
before it answered. The pieces in which the stream arrives make no difference. -/
theorem serve_lines (service : NodeService) (complaint : Complaint) (bytes : List UInt8) :
    ∃ lines, AreLines bytes lines ∧ (∀ other, AreLines bytes other → other = lines) ∧
      ((∀ line ∈ lines, IsText line) →
        (service.serve complaint bytes).isOpen = true ∧
          (service.serve complaint bytes).Settles service complaint lines) ∧
      (∀ before broken after, lines = before ++ broken :: after →
        (∀ line ∈ before, IsText line) → ¬ IsText broken →
        (service.serve complaint bytes).isOpen = false ∧
          (service.serve complaint bytes).Settles service complaint before) ∧
      (∀ line, AdminCommand.IsFaulty line → ∀ command : AdminCommand, ¬ command.IsSpelled line) ∧
      ∀ pieces last, bytes = pieces.flatten ++ last →
        AdminConnection.fresh.run service complaint pieces last = service.serve complaint bytes := by
  refine ⟨streamLines bytes, streamLines_eq_iff.mp rfl,
    fun other are => (streamLines_eq_iff.mpr are).symm, fun texts => ?_,
    fun before broken after cut texts unread => ?_, fun _ faulty => faulty.not_isSpelled,
    fun pieces last whole => ?_⟩
  · have isOpen := service.isOpen_answerLines complaint texts
    refine ⟨isOpen, ?_⟩
    have settles := service.settles_answerLines complaint texts true
    rwa [← isOpen] at settles
  · rw [serve, cut, service.answerLines_broken complaint texts unread]
    exact ⟨rfl, service.settles_answerLines complaint texts false⟩
  · rw [AdminConnection.run_eq_serve, whole]
    rfl

/-- An alive node without items. -/
def idleService : NodeService := ⟨Node.fresh .fourCells ⟨0, 0⟩, ⟨.loopback, 9000, 0⟩, none, false⟩

/-- An injection, a blank line, a shutdown, and a command behind it. -/
def shutdownLines : List (List UInt8) :=
  ["\x7b\"cmd\":\"inject\",\"info_id\":\"a\"\x7d", " ", "\x7b\"cmd\":\"shutdown\"\x7d",
    "\x7b\"cmd\":\"kill\"\x7d"].map Text.bytes

def unexpectedEnd : Complaint := fun _ => "EOF while parsing a value at line 1 column 1"

theorem serve_lines_shutdown :
    let stream := shutdownLines.flatMap (· ++ [lineEnd])
    (idleService.serve unexpectedEnd (stream ++ [0xFF])).isOpen = false ∧
      (idleService.serve unexpectedEnd (stream ++ [0xFF])).Settles idleService unexpectedEnd
        shutdownLines ∧
      (idleService.serve unexpectedEnd stream).isOpen = true ∧
      AdminConnection.fresh.run idleService unexpectedEnd (shutdownLines.map (· ++ [lineEnd]))
        [0xFF] = idleService.serve unexpectedEnd (stream ++ [0xFF]) ∧
      ¬ AdminCommand.ping.IsSpelled [0x20] := by
  have texts : ∀ line ∈ shutdownLines, IsText line := List.forall_mem_map.mpr fun text _ => ⟨text, rfl⟩
  have unread : ¬ IsText [0xFF] := mt isText_iff.mpr (by decide)
  have unbroken : ∀ line ∈ shutdownLines, lineEnd ∉ line := by decide
  obtain ⟨lines, -, unique, -, broken, faulty, pieces⟩ :=
    idleService.serve_lines unexpectedEnd (shutdownLines.flatMap (· ++ [lineEnd]) ++ [0xFF])
  have cut := unique (shutdownLines ++ [[0xFF]])
    ⟨shutdownLines, [0xFF], ⟨rfl, unbroken, by decide⟩, rfl⟩
  obtain ⟨closed, settles⟩ := broken shutdownLines [0xFF] [] cut.symm texts unread
  obtain ⟨all, -, only, answered, -⟩ :=
    idleService.serve_lines unexpectedEnd (shutdownLines.flatMap (· ++ [lineEnd]))
  obtain rfl := only shutdownLines
    ⟨shutdownLines, [], ⟨(List.append_nil _).symm, unbroken, List.not_mem_nil⟩, rfl⟩
  exact ⟨closed, settles, (answered texts).1,
    pieces (shutdownLines.map (· ++ [lineEnd])) [0xFF] (by rw [List.flatMap_def]),
    faulty [0x20] (.blank (List.forall_mem_singleton.mpr rfl)) .ping⟩

end NodeService
end GridDiffusion
