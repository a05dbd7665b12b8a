import GridDiffusion.Admin.Client
import GridDiffusion.Proofs.Admin.Grammar
import GridDiffusion.Proofs.Admin.Lines
import GridDiffusion.Proofs.Message.RoundTrip
import GridDiffusion.Proofs.Node.Cell
/-! Commands and responses over an admin socket: each is written as one line, and the line is read
as the command or the response again, so whoever sends a command gets the response that it was
given. -/
namespace GridDiffusion

open Json

theorem bytes_render_push (value : Value) :
    (value.render.push '\n').toUTF8.toList = Text.bytes value.render ++ [lineEnd] := by
  rw [Text.toUTF8_toList, Text.bytes_push]
  rfl

theorem isLine_render_push (value : Value) : IsLine (value.render.push '\n').toUTF8.toList :=
  ⟨_, bytes_render_push value, value.isUnbroken_render⟩

/-- A written value is read as its tree, with the end of the line and without it. -/
theorem Json.Tree.ofBytes?_line (value : Value) :
    ofBytes? (Text.bytes value.render) = value.tree? ∧
      ofBytes? (value.render.push '\n').toUTF8.toList = value.tree? := by
  have read := ofBytes?_render value
  rw [Text.toUTF8_toList] at read
  rw [bytes_render_push]
  exact ⟨read, (ofBytes?_concat_newline _).trans read⟩

/-- A value that nests little and holds whole numbers only is written as a tree that is readable. -/
theorem Json.Value.isReadable_tree {value : Value} (exact : value.every isExact = true)
    (shallow : value.nesting ≤ depthLimit) {tree : Tree} (written : value.tree? = some tree) :
    tree.isReadable depthLimit = true :=
  (Tree.isReadable_iff tree).mpr (hasMeaning_of_tree? value exact shallow written)

namespace AdminCommand

theorem isReadable_tree (command : AdminCommand) {tree : Tree}
    (written : command.value.tree? = some tree) : tree.isReadable depthLimit = true := by
  refine Value.isReadable_tree ?_ ?_ written
  · cases command with
    | inject id content energy =>
      have bound : energy.toNat ≤ maxWord64 := Nat.le_of_lt_succ energy.toNat_lt
      simp only [value, Value.every, Value.everyMember, Value.isExact, Value.int, Bool.and_true,
        Bool.true_and, Bool.and_eq_true, decide_eq_true_eq]
      omega
    | _ => rfl
  · cases command <;> simp [value, Value.nesting, Value.nestingOfMembers, Value.int, depthLimit]

theorem exists_tree (command : AdminCommand) :
    ∃ tree, command.value.tree? = some tree ∧ ofTree? tree = some command := by
  have bareTree (simple : command ∈ bare) (apart : command.name ≠ "inject")
      (written : command.value.tree? =
        some (.object [(.ofText "cmd", .text (.ofText command.name))])) :
      ∃ tree, command.value.tree? = some tree ∧ ofTree? tree = some command := by
    refine ⟨_, written, ?_⟩
    rw [ofTree?, if_pos (command.isReadable_tree written)]
    simp [Tree.tagged?, Tree.text?, Spelling.text?_ofText, apart, Tree.isBare,
      bareOfName?_name simple]
  cases command with
  | inject id content energy =>
    obtain ⟨numeral, written, read⟩ := Tree.exists_word energy
    have whole : (inject id content energy).value.tree? =
        some (.object [(.ofText "cmd", .text (.ofText "inject")),
          (.ofText "info_id", .text (.ofText id)), (.ofText "content", .text (.ofText content)),
          (.ofText "energy", .number numeral)]) := by
      simp [value, name, Value.tree?, Value.treesOfMembers?, written]
    refine ⟨_, whole, ?_⟩
    rw [ofTree?, if_pos (isReadable_tree _ whole)]
    simp [Tree.tagged?, Tree.text?, Spelling.text?_ofText, injectOfTree?, Tree.record?,
      Tree.members?, Tree.namedMembers?, Tree.hasRepeat, Record.required, Record.optional,
      Record.get?, List.lookup_cons, read]
  | status | kill | revive | shutdown | ping =>
    exact bareTree (by decide) (by decide) (by simp [value, Value.tree?, Value.treesOfMembers?])

theorem ofBytes?_line (command : AdminCommand) :
    ofBytes? (Text.bytes command.value.render) = some command ∧
      ofBytes? command.line.toUTF8.toList = some command := by
  obtain ⟨tree, written, read⟩ := command.exists_tree
  obtain ⟨content, ended⟩ := Tree.ofBytes?_line command.value
  constructor
  · rw [ofBytes?, content, written, Option.bind_some, read]
  · rw [ofBytes?, line, ended, written, Option.bind_some, read]

end AdminCommand

namespace NodeStatus

theorem isExact_value {status : NodeStatus} (items : status.itemCount ≤ maxWord64)
    (neighbors : status.neighbors ≤ maxWord64) : status.value.every Value.isExact = true := by
  have whole {amount : Nat} (bound : amount ≤ maxWord64) :
      (Value.int amount).every Value.isExact = true := by
    simp only [Value.int, Value.every, Value.isExact, Bool.and_eq_true, decide_eq_true_eq]
    omega
  have word (word : UInt64) : (Value.int word.toNat).every Value.isExact = true :=
    whole (Nat.le_of_lt_succ word.toNat_lt)
  have half (word : UInt32) : (Value.int word.toNat).every Value.isExact = true :=
    whole (Nat.le_trans (Nat.le_of_lt word.toNat_lt) (by decide))
  have held : status.itemsValue.every Value.isExact = true := by
    refine Bool.and_eq_true_iff.mpr ⟨rfl, Value.everyMember_iff.mpr fun member inside => ?_⟩
    obtain ⟨entry, -, rfl⟩ := List.mem_map.mp inside
    simp [ItemSummary.value, Value.every, Value.everyMember, Value.isExact, word]
  simp [value, Value.every, Value.everyMember, Value.isExact, word, half, held, whole items,
    whole neighbors]

theorem nesting_value_le (status : NodeStatus) : status.value.nesting ≤ 3 := by
  have held : status.itemsValue.nesting ≤ 2 := by
    refine Nat.succ_le_succ (Value.nestingOfMembers_le_iff.mpr fun member inside => ?_)
    obtain ⟨entry, -, rfl⟩ := List.mem_map.mp inside
    exact Nat.le_refl 1
  simp only [value, Value.nesting, Value.nestingOfMembers, Value.int]
  omega

end NodeStatus

namespace AdminResponse

/-- What a node can answer: counts of 64 bits. -/
def IsSent : AdminResponse → Prop
  | status node => node.itemCount ≤ maxWord64 ∧ node.neighbors ≤ maxWord64
  | ok _ | error _ | pong => True

theorem isReadable_tree {response : AdminResponse} (sent : response.IsSent) {tree : Tree}
    (written : response.value.tree? = some tree) : tree.isReadable depthLimit = true := by
  refine Value.isReadable_tree ?_ ?_ written
  · cases response with
    | status node =>
      have exact := NodeStatus.isExact_value sent.1 sent.2
      simp [value, Value.every, Value.everyMember, Value.isExact, exact]
    | _ => rfl
  · cases response with
    | status node =>
      have shallow := node.nesting_value_le
      simp only [value, Value.nesting, Value.nestingOfMembers, depthLimit]
      omega
    | _ => simp [value, Value.nesting, Value.nestingOfMembers, depthLimit]

theorem exists_tree {response : AdminResponse} (sent : response.IsSent) :
    ∃ tree, response.value.tree? = some tree ∧ ofTree? tree = some response := by
  cases response with
  | ok message | error message =>
    refine ⟨_, rfl, ?_⟩
    rw [ofTree?, if_pos (isReadable_tree sent rfl)]
    simp [Tree.tagged?, Tree.text?, Spelling.text?_ofText, only, Tree.record?, Tree.members?,
      Tree.namedMembers?, Tree.hasRepeat, Record.required, Record.get?]
  | status node =>
    obtain ⟨declared, _, declaredWritten, -, read⟩ := NodeStatus.exists_trees sent.1 sent.2
    have written : (status node).value.tree? = some (.object
        [(.ofText "status", .text (.ofText "status")), (.ofText "node", declared)]) := by
      simp [value, Value.tree?, Value.treesOfMembers?, declaredWritten]
    refine ⟨_, written, ?_⟩
    rw [ofTree?, if_pos (isReadable_tree sent written)]
    simp [Tree.tagged?, Tree.text?, Spelling.text?_ofText, only, Tree.record?, Tree.members?,
      Tree.namedMembers?, Tree.hasRepeat, Record.required, Record.get?, (read .refused).1]
  | pong =>
    refine ⟨_, rfl, ?_⟩
    rw [ofTree?, if_pos (isReadable_tree sent rfl)]
    simp [Tree.tagged?, Tree.text?, Spelling.text?_ofText, Tree.isBare]

theorem ofBytes?_line {response : AdminResponse} (sent : response.IsSent) :
    ofBytes? response.line.toUTF8.toList = some response := by
  obtain ⟨tree, written, read⟩ := exists_tree sent
  rw [ofBytes?, line, (Tree.ofBytes?_line response.value).2, written, Option.bind_some, read]

end AdminResponse

namespace NodeService

/-- A command that is sent alone is carried out and answered once. -/
theorem serve_line (service : NodeService) (complaint : Complaint) (command : AdminCommand) :
    service.serve complaint command.line.toUTF8.toList =
      ⟨[(service.execute command).1], true, (service.execute command).2⟩ := by
  have single := streamLines_line command.value.isUnbroken_render
  have text : isText (Text.bytes command.value.render) = true := isText_iff.mpr ⟨_, rfl⟩
  rw [serve, AdminCommand.line, bytes_render_push, single, answerLines, if_pos text, answerLine,
    command.ofBytes?_line.1]
  rfl

/-- Who sends a command gets the response that the node gives. -/
theorem command_eq {service : NodeService} {complaint : Complaint} {command : AdminCommand}
    (sent : (service.execute command).1.IsSent) :
    service.command complaint command =
      (.ok (service.execute command).1, (service.execute command).2) := by
  rw [NodeService.command, serve_line]
  simp only [AdminResponse.ofBytes?_line sent]

end NodeService

/-- A command goes to the node that listens at the socket file, and to no other. -/
theorem sendCommand_eq {complaint : Complaint} {path : String} {command : AdminCommand}
    {before after : List NodeService} {service : NodeService}
    (apart : ∀ other ∈ before, other.listensAt path = false)
    (listens : service.listensAt path = true) (sent : (service.execute command).1.IsSent) :
    sendCommand complaint path command (before ++ service :: after) =
      (.ok (service.execute command).1, before ++ (service.execute command).2 :: after) := by
  induction before with
  | nil =>
    rw [List.nil_append, sendCommand, if_pos listens, NodeService.command_eq sent]
    rfl
  | cons other before ih =>
    obtain ⟨silent, others⟩ := List.forall_mem_cons.mp apart
    rw [List.cons_append, sendCommand, if_neg (Bool.eq_false_iff.mp silent), ih others]
    rfl

/-- Commands and responses are written as single lines that are read as what was written, whatever
texts they hold. So whoever sends a command to the node that listens at a socket file gets the
response that the node gives, and the node is left as the command leaves it. -/
theorem sendCommand_lines :
    (∀ command : AdminCommand, IsLine command.line.toUTF8.toList ∧
      AdminCommand.ofBytes? command.line.toUTF8.toList = some command) ∧
    (∀ response : AdminResponse, IsLine response.line.toUTF8.toList ∧
      (response.IsSent → AdminResponse.ofBytes? response.line.toUTF8.toList = some response)) ∧
    ∀ complaint path command before service after,
      (∀ other ∈ before, other.listensAt path = false) → service.listensAt path = true →
      (service.execute command).1.IsSent →
      sendCommand complaint path command (before ++ service :: after) =
        (.ok (service.execute command).1, before ++ (service.execute command).2 :: after) :=
  ⟨fun command => ⟨isLine_render_push command.value, command.ofBytes?_line.2⟩,
    fun response => ⟨isLine_render_push response.value, AdminResponse.ofBytes?_line⟩,
    fun _ _ _ _ _ _ apart listens sent => sendCommand_eq apart listens sent⟩

/-- A node that holds an item whose id and content break lines and end strings. -/
def quotingService : NodeService where
  node := { Node.fresh .fourCells ⟨0, 0⟩ with
    store := SortedMap.empty.insert "a\"\n\x5c" ⟨"\t\u2028", 18446744073709551615, 0, .self, by decide⟩ }
  address := ⟨.loopback, 9000, 0⟩
  adminSocket := some "admin.sock"
  isStopped := false

theorem sendCommand_lines_quoting :
    sendCommand (fun _ => "expected value") "admin.sock" .status [quotingService] =
        (.ok (.status quotingService.node.status), [quotingService]) ∧
      AdminResponse.ofBytes? (AdminResponse.status quotingService.node.status).line.toUTF8.toList =
        some (.status quotingService.node.status) := by
  obtain ⟨-, responses, exchange⟩ := sendCommand_lines
  have sent : (AdminResponse.status quotingService.node.status).IsSent :=
    ⟨by decide +kernel, by decide +kernel⟩
  exact ⟨exchange (fun _ => "expected value") "admin.sock" .status [] quotingService []
      (List.forall_mem_nil _) (by decide) sent,
    (responses _).2 sent⟩

end GridDiffusion
