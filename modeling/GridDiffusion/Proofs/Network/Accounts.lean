import Mathlib.Algebra.GroupWithZero.Nat
import GridDiffusion.Proofs.Network.Count
import GridDiffusion.Proofs.Network.Listeners
import GridDiffusion.Proofs.Network.Loop
/-! Accounts of datagrams: whatever is put in flight is delivered, lost or still in flight, once.
Besides the controller's datagrams and those of the ticks there is one reply to each ping that a
node handles. -/
namespace GridDiffusion.Network

variable {network start : Network} {packet : Packet} {packets : List Packet}

def handsPing (network : Network) (packet : Packet) : Bool :=
  network.grid.cells.toList.any fun cell => (network.handed? cell packet).any (·.1.kind = .ping)

theorem handsPing_of_sameSetting {before after : Network} (same : SameSetting before after)
    (packet : Packet) : after.handsPing packet = before.handsPing packet := by
  rw [handsPing, handsPing, same.grid]
  congr
  funext cell
  rw [handed?_of_sameSetting same]

theorem handsPing_eq_false (apart : packet.message.kind ≠ .ping) :
    network.handsPing packet = false := by
  apply List.any_eq_false.mpr
  intro cell _ handed
  obtain ⟨⟨message, source⟩, given, ping⟩ := (Option.any_eq_true _ _).mp handed
  obtain ⟨-, -, -, sent, -⟩ := handed?_eq_some_iff.mp given
  exact apart ((Message.kind_overWire sent).symm.trans (of_decide_eq_true ping))

/-- A delivery sets off one reply if it hands a ping to a node, and nothing otherwise. -/
theorem length_deliver (network : Network) (packet : Packet) :
    (network.deliver packet).2.length = (network.handsPing packet).toNat := by
  rcases network.deliver_cases packet with ⟨nothing, _, _, _, same⟩ | ⟨place, message, -, handed, same⟩
  · have silent : network.handsPing packet = false := by
      apply List.any_eq_false.mpr
      intro cell _
      rw [nothing]
      exact Bool.false_ne_true
    rw [same, silent]
    rfl
  · have asked : network.handsPing packet = decide (message.kind = .ping) := by
      rw [Bool.eq_iff_iff, decide_eq_true_iff, handsPing, List.any_eq_true]
      constructor
      · intro found
        obtain ⟨cell, -, given⟩ := found
        rw [handed] at given
        split at given
        · exact of_decide_eq_true given
        · cases given
      · intro ping
        refine ⟨_, Grid.mem_cells_iff.mpr (Grid.contains_cellAt place), ?_⟩
        rw [handed, if_pos rfl]
        exact decide_eq_true ping
    rw [same, asked]
    cases message <;> rfl

theorem length_deliverEach (network : Network) (packets : List Packet) :
    (network.deliverEach packets).2.length = packets.countP network.handsPing := by
  induction packets generalizing network with
  | nil => rfl
  | cons packet rest ih =>
    have later : (network.deliver packet).1.handsPing = network.handsPing := by
      funext other
      exact handsPing_of_sameSetting (network.sameSetting_deliver packet) other
    rw [deliverEach_cons, List.length_append, length_deliver, ih, later, List.countP_cons]
    cases network.handsPing packet <;> simp +arith

theorem length_replies (network : Network) : network.replies.length =
    (network.inFlight ++ network.replies).countP network.handsPing := by
  have first : network.replies.length = network.inFlight.countP network.handsPing :=
    (network.requeue []).length_deliverEach network.inFlight
  have none : network.replies.countP network.handsPing = 0 := by
    apply List.countP_eq_zero.mpr
    intro reply set
    have pong := (kind_of_mem_deliverEach set).1
    have apart : reply.message.kind ≠ .ping := by
      rw [pong]
      nofun
    rw [handsPing_eq_false apart]
    exact Bool.false_ne_true
  rw [List.countP_append, none, first, Nat.add_zero]

/-- Whether a datagram goes over a cut link, or cannot be written and read. -/
def drops (network : Network) (packet : Packet) : Bool :=
  network.cutLinks.contains (packet.source, packet.target) ||
    packet.message.overWire.toOption.isNone

theorem loses_eq_drops (listened : network.HasListener packet.target) :
    network.loses packet = network.drops packet := by
  have there : (decide (packet.target ≠ network.controller) &&
      (network.grid.coordAt? packet.target).isNone) = false := by
    rcases listened with home | ⟨cell, found⟩
    · simp [home]
    · simp [Grid.coordAt?_addressOf found]
  rw [loses, there, Bool.or_false, drops]

/-- What a delivery of everything in flight comes to. -/
structure Accounted (network : Network) : Prop where
  /-- The loop ends, and takes out what is in flight and then the replies. -/
  loop : ∀ popped final, network.Drains popped final ↔
    popped = network.inFlight ++ network.replies ∧ final = network.deliverAll
  settled : network.deliverAll.inFlight = []
  pongs : ∀ reply ∈ network.replies, reply.message.kind = .pong
  /-- As many datagrams are counted as were in flight, and one for each ping handed to a node. -/
  counted : network.deliverAll.delivered + network.deliverAll.lost =
    network.delivered + network.lost + (network.inFlight.length +
      (network.inFlight ++ network.replies).countP network.handsPing)
  lost : network.deliverAll.lost =
    network.lost + (network.inFlight ++ network.replies).countP network.drops
  /-- No datagram goes where nobody listens. -/
  listened : ∀ packet ∈ network.inFlight ++ network.replies, network.HasListener packet.target

theorem counted_deliverAll (network : Network) :
    network.deliverAll.delivered + network.deliverAll.lost = network.delivered + network.lost +
      (network.inFlight.length + network.replies.length) := by
  obtain ⟨lost, delivered⟩ := network.counts_deliverAll
  have all : network.inFlight.length + network.replies.length =
      (network.inFlight ++ network.replies).countP network.loses +
        (network.inFlight ++ network.replies).countP fun packet => !network.loses packet := by
    rw [← List.length_append, List.length_eq_countP_add_countP network.loses]
    simp
  rw [delivered, lost, all]
  omega

theorem IsAddressed.accounted (addressed : network.IsAddressed) : network.Accounted where
  loop _ _ := drains_iff
  settled := network.inFlight_deliverAll
  pongs _ set := (kind_of_mem_deliverEach set).1
  counted := by
    rw [← length_replies]
    exact network.counted_deliverAll
  lost := by
    have alike : (network.inFlight ++ network.replies).countP network.loses =
        (network.inFlight ++ network.replies).countP network.drops :=
      List.countP_congr fun packet taken => by rw [loses_eq_drops (addressed.hasListener taken)]
    rw [network.counts_deliverAll.1, alike]
  listened _ := addressed.hasListener

/-- All datagrams so far: delivered, lost or still in flight. -/
def datagrams (network : Network) : Nat :=
  network.delivered + network.lost + network.inFlight.length

def commanded (network : Network) : NetworkAction → Nat
  | .send cell _ | .inject cell _ _ _ | .kill cell | .ping cell => (network.grid.contains cell).toNat
  | _ => 0

def ticked (network : Network) : NetworkAction → Nat
  | .round => (network.nodes.toList.map fun node => node.tick.1.length).sum
  | _ => 0

def answered (network : Network) : NetworkAction → Nat
  | .flush => network.replies.length
  | .ping cell => ((network.send cell (.ping controllerId [])).toOption.map (·.replies.length)).getD 0
  | .round => network.tickAll.replies.length
  | _ => 0

def sumOver (count : Network → NetworkAction → Nat) (network : Network) : List NetworkAction → Nat
  | [] => 0
  | action :: rest => count network action + sumOver count (network.perform action) rest

theorem datagrams_deliverAll (network : Network) :
    network.deliverAll.datagrams = network.datagrams + network.replies.length := by
  rw [datagrams, datagrams, counted_deliverAll, inFlight_deliverAll, List.length_nil]
  omega

theorem datagrams_tickAll (network : Network) :
    network.tickAll.datagrams = network.datagrams + network.ticked .round := by
  have sent : network.sent.length = network.ticked .round := by
    rw [Network.sent, List.length_flatMap, ticked]
    congr
    funext node
    exact List.length_map _
  have queue : network.tickAll.inFlight.length = network.inFlight.length + network.sent.length :=
    List.length_append
  rw [datagrams, queue, sent, ← Nat.add_assoc]
  rfl

theorem datagrams_send (network : Network) (cell : Coord) (message : Message) :
    ((network.send cell message).toOption.getD network).datagrams =
      network.datagrams + (network.grid.contains cell).toNat := by
  rcases network.send_cases cell message with ⟨target, found, sent⟩ | ⟨cause, refused⟩
  · have onGrid : network.grid.contains cell = true := Grid.exists_addressOf_iff.mp ⟨target, found⟩
    rw [sent, onGrid]
    exact congrArg (network.delivered + network.lost + ·) List.length_append
  · have offGrid : network.grid.contains cell = false := by
      rw [← Bool.not_eq_true]
      intro onGrid
      obtain ⟨target, found⟩ := Grid.exists_addressOf_iff.mpr onGrid
      cases (send_eq_ok found message).symm.trans refused
    rw [refused, offGrid]
    rfl

theorem datagrams_updateNode (network : Network) (cell : Coord) (change : Node → Node) :
    (network.updateNode cell change).datagrams = network.datagrams := by
  obtain ⟨lost, delivered⟩ := network.counts_updateNode cell change
  rw [datagrams, lost, delivered, inFlight_updateNode]
  rfl

/-- Every step puts in flight what the controller sends, what the ticks return and what nodes reply.
-/
theorem datagrams_perform (network : Network) (action : NetworkAction) :
    (network.perform action).datagrams = network.datagrams + (network.commanded action +
      network.ticked action + network.answered action) := by
  cases action with
  | send cell message => exact network.datagrams_send cell message
  | inject cell id content energy => exact network.datagrams_send cell _
  | kill cell => exact network.datagrams_send cell _
  | localInject cell | localKill cell | revive cell => exact network.datagrams_updateNode cell _
  | cut left right =>
    rcases network.cutLink_cases left right with ⟨_, _, -, -, cut⟩ | ⟨cause, refused⟩
    · rw [perform, cut]
      rfl
    · rw [perform, refused]
      rfl
  | flush =>
    rw [perform, flush, datagrams_deliverAll]
    simp [commanded, ticked, answered]
  | ping cell =>
    have sends := network.datagrams_send cell (.ping controllerId [])
    rcases network.ping_cases cell with ⟨sent, answer, inbox, given, pinged⟩ | ⟨cause, unsent, refused⟩
    · have after : (network.perform (.ping cell)).datagrams = sent.deliverAll.datagrams := by
        rw [perform, pinged]
        rfl
      rw [given] at sends
      have queue : sent.datagrams = network.datagrams + network.commanded (.ping cell) := sends
      rw [after, datagrams_deliverAll, queue, answered, given, ← Nat.add_assoc]
      rfl
    · rw [unsent] at sends
      have same : network.datagrams = network.datagrams + network.commanded (.ping cell) := sends
      rw [perform, refused, answered, unsent]
      exact same
  | round =>
    rw [perform, runRound, datagrams_deliverAll, datagrams_tickAll]
    simp [commanded, answered, Nat.add_assoc]

theorem datagrams_performAll (network : Network) (actions : List NetworkAction) :
    (network.performAll actions).datagrams = network.datagrams + (sumOver commanded network actions +
      sumOver ticked network actions + sumOver answered network actions) := by
  induction actions generalizing network with
  | nil => rfl
  | cons action rest ih =>
    have later : (network.performAll (action :: rest)).datagrams =
      ((network.perform action).performAll rest).datagrams := rfl
    rw [later, ih, datagrams_perform, sumOver, sumOver, sumOver]
    omega

/-- In whatever a run from a new network leads to, each cell has its node and no step with a cell of
the grid is refused. Every delivery ends and accounts for each datagram, be it of a flush, of a ping
or of the ticks of a round. Over the whole run, what was delivered, what was lost and what is still
in flight come to what the controller sent, what the ticks returned and what nodes replied to pings.
-/
theorem accounts_of_run {size : UInt32} {basePort : UInt16} (made : create size basePort = .ok start)
    (actions : List NetworkAction) (run : start.performAll actions = network) :
    network.Serves ∧ network.Accounted ∧ network.tickAll.Accounted ∧
      (∀ cell, network.grid.contains cell = true → ∃ sent answer inbox,
        network.send cell (.ping controllerId []) = .ok sent ∧ sent.Accounted ∧
          network.ping cell = .ok (answer, { sent.deliverAll with inbox })) ∧
      network.delivered + network.lost + network.inFlight.length = sumOver commanded start actions +
        sumOver ticked start actions + sumOver answered start actions := by
  have reached : network.Reachable := run ▸ (Reachable.create made).performAll actions
  have sound := reached.wellFormed
  have addressed := reached.isAddressed
  refine ⟨sound.serves, addressed.accounted, (addressed.tickAll sound).accounted, ?_, ?_⟩
  · intro cell onGrid
    obtain ⟨target, found⟩ := Grid.exists_addressOf_iff.mpr onGrid
    obtain ⟨sent, answer, inbox, given, pinged⟩ := ping_eq_ok found
    have queue := addressed.send cell (.ping controllerId [])
    rw [given] at queue
    exact ⟨sent, answer, inbox, given, IsAddressed.accounted queue, pinged⟩
  · have empty : start.datagrams = 0 := by
      obtain ⟨-, grid, -, rfl⟩ := create_eq_ok_iff.mp made
      rfl
    have total := start.datagrams_performAll actions
    rw [run, empty, Nat.zero_add] at total
    exact total

theorem accounts_of_run_fourCells :
    let actions : List NetworkAction :=
      [.inject ⟨0, 0⟩ "x" "" 5, .cut ⟨0, 0⟩ ⟨1, 1⟩, .ping ⟨0, 0⟩, .round]
    let start := fresh .fourCells
    let network := start.performAll actions
    create 2 9000 = .ok start ∧ network.Serves ∧ network.Accounted ∧
      network.delivered + network.lost + network.inFlight.length = sumOver commanded start actions +
        sumOver ticked start actions + sumOver answered start actions := by
  intro actions start network
  have grid : Grid.ofSize 2 ⟨.loopback, 9000, 0⟩ = .ok .fourCells :=
    Grid.ofSize_eq_ok_iff.mpr ⟨rfl, rfl⟩
  have made : create 2 9000 = .ok start :=
    create_eq_ok_iff.mpr ⟨by decide, .fourCells, grid, rfl⟩
  obtain ⟨serves, accounted, -, -, total⟩ := accounts_of_run made actions rfl
  exact ⟨made, serves, accounted, total⟩

end GridDiffusion.Network
