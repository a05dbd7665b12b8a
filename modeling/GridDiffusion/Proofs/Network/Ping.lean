import GridDiffusion.Proofs.Network.Listeners
import GridDiffusion.Proofs.Node.Pong
/-! Pings of the controller. Everything in flight is delivered before the ping, so its reply is the
latest entry of the inbox, if the reply gets through. Where it does not, an earlier reply that
nobody has collected is taken for it. -/
namespace GridDiffusion

open Json

def Message.status? : Message → Option NodeStatus
  | .pong _ status => some status
  | _ => none

theorem Message.overWire_of_getsThrough {message : Message} (through : message.GetsThrough) :
    message.overWire = .ok message := by
  obtain ⟨bytes, encoded, read⟩ := through
  rw [overWire, encoded]
  exact read

theorem Message.overWire_ping : (ping controllerId []).overWire = .ok (ping controllerId []) := by
  have size : (ping controllerId []).text.utf8ByteSize = 70 := by
    rw [utf8ByteSize_text]
    decide
  have fits : (ping controllerId []).Fits := by
    rw [Fits, size]
    decide
  have encoded := encode_of_fits fits
  have carried : (ping controllerId []).IsCarried :=
    Value.isRead_object_iff.mpr ⟨.nil, List.forall_mem_nil _⟩
  exact overWire_of_getsThrough ⟨_, encoded, decode_of_encode carried rfl encoded⟩

namespace Network
variable {network : Network} {cell : Coord} {packet : Packet} {target : Address} {node : Node}

/-- What a datagram puts into the inbox, if it reaches the controller. -/
def received? (network : Network) (packet : Packet) : Option (Address × Message) :=
  if network.cutLinks.contains (packet.source, packet.target) then none
  else if packet.target = network.controller then
    packet.message.overWire.toOption.map (packet.source, ·)
  else none

theorem received?_of_sameSetting {before after : Network} (same : SameSetting before after)
    (packet : Packet) : after.received? packet = before.received? packet := by
  rw [received?, received?, same.controller, same.cutLinks]

theorem received?_eq_some_iff {network : Network} {packet : Packet} {entry : Address × Message} :
    network.received? packet = some entry ↔ (packet.source, packet.target) ∉ network.cutLinks ∧
      packet.target = network.controller ∧
        packet.message.overWire.toOption.map (packet.source, ·) = some entry := by
  rw [received?, Option.ite_none_left_eq_some, Option.ite_none_right_eq_some, List.contains_iff_mem]

theorem inbox_deliver (network : Network) (packet : Packet) : (network.deliver packet).1.inbox =
    (network.received? packet).toList ++ network.inbox := by
  unfold deliver received?
  split
  · rfl
  · by_cases home : packet.target = network.controller
    · rw [if_pos home]
      cases packet.message.overWire with
      | error cause => rfl
      | ok message =>
        dsimp only
        rw [if_pos home]
        rfl
    · rw [if_neg home]
      cases packet.message.overWire with
      | error cause => rfl
      | ok message =>
        dsimp only
        rw [if_neg home]
        cases (network.grid.coordAt? packet.target).bind network.grid.place? <;> rfl

def received (network : Network) (packets : List Packet) : List (Address × Message) :=
  (packets.filterMap network.received?).reverse

theorem received_append (network : Network) (first second : List Packet) :
    network.received (first ++ second) = network.received second ++ network.received first := by
  rw [received, List.filterMap_append, List.reverse_append]
  rfl

theorem inbox_deliverEach (network : Network) (packets : List Packet) :
    (network.deliverEach packets).1.inbox = network.received packets ++ network.inbox := by
  induction packets generalizing network with
  | nil => rfl
  | cons packet rest ih =>
    have later : (network.deliver packet).1.received rest = network.received rest :=
      congrArg List.reverse (List.filterMap_congr fun other _ =>
        received?_of_sameSetting (network.sameSetting_deliver packet) other)
    have first : network.received [packet] = (network.received? packet).toList := by
      rw [received, List.filterMap_cons]
      cases network.received? packet <;> rfl
    rw [deliverEach_cons, ih, inbox_deliver, later, ← List.append_assoc, ← first, ← received_append]
    rfl

/-- What a delivery of everything in flight puts into the inbox: the replies are later than the
rest. -/
theorem inbox_deliverAll (network : Network) : network.deliverAll.inbox =
    network.received (network.inFlight ++ network.replies) ++ network.inbox := by
  have same := sameSetting_deliverEach (network.requeue []) network.inFlight
  have later : ((network.requeue []).deliverEach network.inFlight).1.received network.replies =
      network.received network.replies :=
    congrArg List.reverse (List.filterMap_congr fun packet _ => received?_of_sameSetting same packet)
  have replied := inbox_deliverEach ((network.requeue []).deliverEach network.inFlight).1 network.replies
  have first := inbox_deliverEach (network.requeue []) network.inFlight
  rw [later, first, ← List.append_assoc] at replied
  rw [received_append]
  exact replied

/-- What concerns the controller in a network in use. -/
structure Hears (network : Network) : Prop where
  /-- Links are cut between cells alone. -/
  cut : ∀ link ∈ network.cutLinks, ∃ cell, network.grid.addressOf cell = .ok link.1
  /-- Nothing goes to the controller but replies. -/
  away : ∀ packet ∈ network.inFlight, packet.target ≠ network.controller
  pongs : ∀ entry ∈ network.inbox, entry.2.kind = .pong

theorem Hears.notMem_cutLinks (hears : network.Hears) (sound : network.WellFormed)
    (address : Address) : (network.controller, address) ∉ network.cutLinks ∧
      (address, network.controller) ∉ network.cutLinks := by
  have outgoing (other : Address) : (network.controller, other) ∉ network.cutLinks := by
    intro cut
    obtain ⟨cell, found⟩ := hears.cut _ cut
    exact sound.controller cell found
  exact ⟨outgoing address, fun cut => outgoing address (sound.cutBoth cut)⟩

theorem Hears.of_sameSetting {before after : Network} (hears : before.Hears)
    (same : SameSetting before after) (queue : after.inFlight = before.inFlight)
    (inbox : after.inbox = before.inbox) : after.Hears where
  cut := same.grid ▸ same.cutLinks ▸ hears.cut
  away := queue ▸ same.controller ▸ hears.away
  pongs := inbox ▸ hears.pongs

theorem Hears.deliverAll (hears : network.Hears) : network.deliverAll.Hears where
  cut := by
    rw [network.sameSetting_deliverAll.grid, network.sameSetting_deliverAll.cutLinks]
    exact hears.cut
  away := by
    rw [inFlight_deliverAll]
    exact List.forall_mem_nil _
  pongs := by
    intro entry member
    rw [inbox_deliverAll] at member
    rcases List.mem_append.mp member with new | old
    · obtain ⟨packet, taken, given⟩ := List.mem_filterMap.mp (List.mem_reverse.mp new)
      obtain ⟨-, home, sent⟩ := received?_eq_some_iff.mp given
      have set : packet ∈ network.replies := (List.mem_append.mp taken).resolve_left fun flying =>
        hears.away packet flying home
      cases read : packet.message.overWire with
      | error cause =>
        rw [read] at sent
        cases sent
      | ok message =>
        rw [read] at sent
        obtain rfl := Option.some.inj sent
        exact (Message.kind_overWire read).trans (kind_of_mem_deliverEach set).1
    · exact hears.pongs entry old

theorem Hears.send (hears : network.Hears) (sound : network.WellFormed) (cell : Coord)
    (message : Message) : ((network.send cell message).toOption.getD network).Hears := by
  rcases network.send_cases cell message with ⟨target, found, sent⟩ | ⟨cause, refused⟩
  · rw [sent]
    refine ⟨hears.cut, fun packet member => ?_, hears.pongs⟩
    rcases List.mem_append.mp member with before | now
    · exact hears.away packet before
    · obtain rfl := List.mem_singleton.mp now
      exact fun home => sound.controller cell (home ▸ found)
  · rw [refused]
    exact hears

theorem Hears.tickAll (hears : network.Hears) (sound : network.WellFormed) :
    network.tickAll.Hears where
  cut := hears.cut
  away := by
    intro packet member
    rcases List.mem_append.mp member with before | ticked
    · exact hears.away packet before
    · obtain ⟨source, node, found, made⟩ := mem_sent_iff.mp ticked
      obtain ⟨id, item, -, near, around, rfl⟩ := (sound.livesAt found).mem_packets_iff.mp made
      have own := Grid.addressOf_neighborAt (Grid.mem_mooreNeighbors.mp around).1
      exact fun home => sound.controller near (own.trans (congrArg Except.ok home))
  pongs := hears.pongs

theorem inbox_updateNode (network : Network) (cell : Coord) (change : Node → Node) :
    (network.updateNode cell change).inbox = network.inbox := by
  unfold updateNode
  split <;> rfl

/-- The latest status in an inbox from an address, if its latest message is a pong, and the inbox
without that message. -/
def collect (inbox : List (Address × Message)) (source : Address) :
    Option NodeStatus × List (Address × Message) :=
  match takeFrom? inbox source with
  | none => (none, inbox)
  | some (message, rest) => (message.status?, rest)

def asking (network : Network) (target : Address) : Network :=
  network.requeue (network.inFlight ++ [⟨network.controller, target, .ping controllerId []⟩])

/-- A ping delivers everything in flight, itself last, and collects from the inbox. -/
theorem ping_eq (found : network.grid.addressOf cell = .ok target) : network.ping cell =
    .ok ((collect (network.asking target).deliverAll.inbox target).1,
      { (network.asking target).deliverAll with
        inbox := (collect (network.asking target).deliverAll.inbox target).2 }) := by
  have address : network.addressOf cell = .ok target := by rw [addressOf, found]; rfl
  have sent : network.send cell (.ping controllerId []) = .ok (network.asking target) :=
    send_eq_ok found _
  rw [ping, address, sent, ok_bind, ok_bind]
  dsimp only
  rw [collect]
  cases takeFrom? (network.asking target).deliverAll.inbox target with
  | none => rfl
  | some taken =>
    obtain ⟨message, rest⟩ := taken
    cases message <;> rfl

theorem subset_collect (inbox : List (Address × Message)) (source : Address) :
    (collect inbox source).2 ⊆ inbox := by
  rw [collect, takeFrom?]
  cases inbox.find? (·.1 = source) with
  | none => exact List.Subset.refl inbox
  | some entry => exact List.eraseP_subset

theorem Hears.ping (hears : network.Hears) (sound : network.WellFormed) (cell : Coord) :
    (((network.ping cell).toOption.map (·.2)).getD network).Hears := by
  cases found : network.grid.addressOf cell with
  | error cause =>
    have refused : network.ping cell = .error (.offGrid cell cause) := by
      rw [Network.ping, addressOf, found]
      rfl
    rw [refused]
    exact hears
  | ok target =>
    have asked : (network.asking target).Hears := by
      have sends := hears.send sound cell (.ping controllerId [])
      rw [send_eq_ok found] at sends
      exact sends
    have delivered := asked.deliverAll
    rw [ping_eq found]
    exact ⟨delivered.cut, delivered.away, fun entry member =>
      delivered.pongs entry (subset_collect _ target member)⟩

theorem Hears.perform (hears : network.Hears) (sound : network.WellFormed) (action : NetworkAction) :
    (network.perform action).Hears := by
  cases action with
  | send cell message => exact hears.send sound cell message
  | inject cell id content energy => exact hears.send sound cell _
  | kill cell => exact hears.send sound cell _
  | localInject cell | localKill cell | revive cell =>
    rw [Network.perform]
    exact hears.of_sameSetting (network.sameSetting_updateNode cell _)
      (network.inFlight_updateNode cell _) (network.inbox_updateNode cell _)
  | cut left right =>
    rcases network.cutLink_cases left right with ⟨source, target, found, otherFound, cut⟩ | ⟨_, refused⟩
    · rw [Network.perform, cut]
      refine ⟨fun link member => ?_, hears.away, hears.pongs⟩
      rcases List.mem_cons.mp member with rfl | member
      · exact ⟨left, found⟩
      · rcases List.mem_cons.mp member with rfl | before
        · exact ⟨right, otherFound⟩
        · exact hears.cut link before
    · rw [Network.perform, refused]
      exact hears
  | flush => exact hears.deliverAll
  | ping cell => exact hears.ping sound cell
  | round => exact (hears.tickAll sound).deliverAll

theorem Reachable.hears (reached : network.Reachable) : network.Hears := by
  induction reached with
  | create made =>
    obtain ⟨-, grid, -, rfl⟩ := create_eq_ok_iff.mp made
    exact ⟨List.forall_mem_nil _, List.forall_mem_nil _, List.forall_mem_nil _⟩
  | perform earlier action hears => exact hears.perform earlier.wellFormed action

theorem deliverEach_append (network : Network) (first second : List Packet) :
    network.deliverEach (first ++ second) =
      (((network.deliverEach first).1.deliverEach second).1,
        (network.deliverEach first).2 ++ ((network.deliverEach first).1.deliverEach second).2) := by
  induction first generalizing network with
  | nil => rfl
  | cons packet rest ih => rw [List.cons_append, deliverEach_cons, ih, deliverEach_cons, List.append_assoc]

/-- What a delivery sets off is what the node of the cell replies. -/
theorem replies_deliver {message : Message} {source : Address}
    (found : network.node? cell = some node)
    (given : network.handed? cell packet = some (message, source)) :
    (network.deliver packet).2 = ((node.handle message source).1.map fun out =>
      (⟨packet.target, out.target, out.message⟩ : Packet)).toList := by
  rcases network.deliver_cases packet with ⟨nothing, -⟩ | ⟨place, sent, -, handed, same⟩
  · cases (nothing cell).symm.trans given
  · rw [handed] at given
    split at given
    next here =>
      obtain ⟨rfl, rfl⟩ := Prod.mk.inj (Option.some.inj given)
      have there := network.node?_of_place (here ▸ network.grid.place?_cellAt place)
      obtain rfl := Option.some.inj (there.symm.trans found)
      rw [same]
    · cases given

/-- A ping reaches the node of its cell. -/
theorem Hears.handed?_ping (hears : network.Hears) (sound : network.WellFormed)
    (found : network.grid.addressOf cell = .ok target) :
    network.handed? cell ⟨network.controller, target, .ping controllerId []⟩ =
      some (.ping controllerId [], network.controller) := by
  have apart : target ≠ network.controller := fun home => sound.controller cell (home ▸ found)
  exact handed?_eq_some_iff.mpr ⟨(hears.notMem_cutLinks sound target).1, apart,
    Grid.coordAt?_addressOf found, Message.overWire_ping, rfl⟩

/-- The ping is the last datagram in flight, so the reply to it shows what all others have left. -/
theorem Hears.replies_asking (hears : network.Hears) (sound : network.WellFormed)
    (found : network.grid.addressOf cell = .ok target) (there : network.flush.node? cell = some node) :
    (network.asking target).replies =
      network.replies ++ [⟨target, network.controller, .pong node.id node.status⟩] := by
  have same := sameSetting_deliverEach (network.requeue []) network.inFlight
  have given := (handed?_of_sameSetting same cell
    ⟨network.controller, target, .ping controllerId []⟩).trans (hears.handed?_ping sound found)
  have node : ((network.requeue []).deliverEach network.inFlight).1.node? cell = some node := by
    rw [node?_deliverEach, ← there, flush, node?_deliverAll]
    rfl
  have last := replies_deliver node given
  have parts := (network.requeue []).deliverEach_append network.inFlight
    [⟨network.controller, target, .ping controllerId []⟩]
  rw [deliverEach_cons, last] at parts
  exact congrArg Prod.snd parts

theorem node?_asking (network : Network) (target : Address) (other : Coord) :
    (network.asking target).deliverAll.node? other = network.flush.node? other := by
  have parts : (network.asking target).handed other (network.asking target).inFlight =
      network.handed other network.inFlight ++
        network.handed other [⟨network.controller, target, .ping controllerId []⟩] :=
    List.filterMap_append ..
  have still (node : Node) :
      node.handleAll (network.handed other [⟨network.controller, target, .ping controllerId []⟩]) =
        node := by
    rw [handed, List.filterMap_cons]
    cases given : network.handed? other ⟨network.controller, target, .ping controllerId []⟩ with
    | none => rfl
    | some arrival =>
      obtain ⟨message, source⟩ := arrival
      have sent := (handed?_eq_some_iff.mp given).2.2.2.1
      obtain rfl := Except.ok.inj (Message.overWire_ping.symm.trans sent)
      rfl
  rw [flush, node?_deliverAll, node?_deliverAll, parts]
  refine Option.map_congr fun node _ => ?_
  rw [Node.handleAll, List.foldl_append]
  exact still _

/-- The inbox after a ping: the reply to it is the latest entry, if it gets through. -/
theorem Hears.inbox_asking (hears : network.Hears) (sound : network.WellFormed)
    (found : network.grid.addressOf cell = .ok target) (there : network.flush.node? cell = some node) :
    (network.asking target).deliverAll.inbox =
      ((Message.pong node.id node.status).overWire.toOption.map (target, ·)).toList ++
        network.flush.inbox := by
  have apart : target ≠ network.controller := fun home => sound.controller cell (home ▸ found)
  have outgoing : network.received [⟨network.controller, target, .ping controllerId []⟩] = [] := by
    have none : network.received? ⟨network.controller, target, .ping controllerId []⟩ = none :=
      Option.eq_none_iff_forall_ne_some.mpr fun _ given => apart (received?_eq_some_iff.mp given).2.1
    rw [received, List.filterMap_cons, none]
    rfl
  have reply : network.received [⟨target, network.controller, .pong node.id node.status⟩] =
      ((Message.pong node.id node.status).overWire.toOption.map (target, ·)).toList := by
    have some : network.received? ⟨target, network.controller, .pong node.id node.status⟩ =
        (Message.pong node.id node.status).overWire.toOption.map (target, ·) :=
      Option.ext fun entry => received?_eq_some_iff.trans
        ⟨fun given => given.2.2, fun sent => ⟨(hears.notMem_cutLinks sound target).2, rfl, sent⟩⟩
    rw [received, List.filterMap_cons, some]
    cases (Message.pong node.id node.status).overWire <;> rfl
  have queue : (network.asking target).inFlight =
    network.inFlight ++ [⟨network.controller, target, .ping controllerId []⟩] := rfl
  have received_eq : (network.asking target).received = network.received := rfl
  rw [inbox_deliverAll, hears.replies_asking sound found there, queue, received_eq, flush,
    inbox_deliverAll]
  simp only [received_append, outgoing, reply, List.nil_append, List.append_assoc]
  rfl

/-- What is collected from an inbox of pongs: the latest one from the address, if there is one. -/
theorem collect_cases {inbox : List (Address × Message)}
    (pongs : ∀ entry ∈ inbox, entry.2.kind = .pong) (source : Address) :
    (∀ entry ∈ inbox, entry.1 ≠ source) ∧ collect inbox source = (none, inbox) ∨
      ∃ later sender status earlier, inbox = later ++ (source, .pong sender status) :: earlier ∧
        (∀ entry ∈ later, entry.1 ≠ source) ∧
          collect inbox source = (some status, later ++ earlier) := by
  unfold collect takeFrom?
  cases search : inbox.find? (·.1 = source) with
  | none =>
    refine .inl ⟨fun entry member same => ?_, rfl⟩
    exact List.find?_eq_none.mp search entry member (decide_eq_true same)
  | some entry =>
    obtain ⟨matched, later, earlier, split, others⟩ := List.find?_eq_some_iff_append.mp search
    obtain ⟨address, message⟩ := entry
    obtain rfl : address = source := of_decide_eq_true matched
    have apart : ∀ entry ∈ later, entry.1 ≠ address := by simpa using others
    have pong := pongs _ (split ▸ List.mem_append_right _ List.mem_cons_self)
    cases message with
    | pong sender status =>
      have erased : inbox.eraseP (·.1 = address) = later ++ earlier := by
        rw [split, List.eraseP_append_right _ (by simpa using apart), List.eraseP_cons_of_pos (by simp)]
      exact .inr ⟨later, sender, status, earlier, split, apart, by rw [← erased]; rfl⟩
    | _ => cases pong

/-- What a ping of a cell comes to. -/
structure Pinged (network : Network) (cell : Coord) (target : Address) (node : Node)
    (answer : Option NodeStatus) (after : Network) : Prop where
  setting : SameSetting network after
  settled : after.inFlight = []
  /-- The ping itself changes no node. -/
  nodes : ∀ other, after.node? other = network.flush.node? other
  there : after.node? cell = some node
  /-- A reply that fits a datagram is the answer, whatever is left in the inbox. -/
  current : node.pongSize ≤ datagramLimit →
    answer = some node.status ∧ after.inbox = network.flush.inbox
  /-- Otherwise the latest reply that has been left in the inbox is taken for it. -/
  leftover : datagramLimit < node.pongSize →
    (∀ entry ∈ network.flush.inbox, entry.1 ≠ target) ∧ answer = none ∧
        after.inbox = network.flush.inbox ∨
      ∃ later sender status earlier,
        network.flush.inbox = later ++ (target, .pong sender status) :: earlier ∧
          (∀ entry ∈ later, entry.1 ≠ target) ∧ answer = some status ∧
            after.inbox = later ++ earlier

/-- In a network in use, a ping of a cell answers the status that its node has by then if the reply
fits a datagram. If it does not, the answer is the latest reply of the cell that nobody has
collected, and there is none if all have been. -/
theorem ping_of_reachable (reached : network.Reachable) (onGrid : network.grid.contains cell = true) :
    ∃ target node answer after, network.grid.addressOf cell = .ok target ∧
      network.ping cell = .ok (answer, after) ∧ network.Pinged cell target node answer after := by
  have sound := reached.wellFormed
  have hears := reached.hears
  obtain ⟨target, found⟩ := Grid.exists_addressOf_iff.mpr onGrid
  obtain ⟨node, there⟩ : ∃ node, network.flush.node? cell = some node :=
    exists_node (network.sameSetting_deliverAll.grid ▸ onGrid)
  have few : node.neighbors.size ≤ 8 := by
    rw [((reached.perform .flush).samePlace_fresh there).neighbors]
    exact Node.size_neighbors_fresh_le _ cell
  have inbox := hears.inbox_asking sound found there
  refine ⟨target, node, _, _, found, ping_eq found, ?_⟩
  constructor
  case setting =>
    have same := (network.asking target).sameSetting_deliverAll
    exact ⟨same.grid, same.controller, same.cutLinks⟩
  case settled => exact (network.asking target).inFlight_deliverAll
  case nodes => exact network.node?_asking target
  case there => exact (network.node?_asking target cell).trans there
  case current =>
    intro short
    have sent := Message.overWire_of_getsThrough ((Node.getsThrough_pong_iff few).mpr short)
    rw [sent] at inbox
    rw [inbox]
    simp [collect, takeFrom?, Except.toOption, Message.status?]
  case leftover =>
    intro long
    have lost : (Message.pong node.id node.status).overWire = .error (.oversized node.pongSize) := by
      rw [Message.overWire, node.encode_pong_eq_error_iff.mpr long]
      rfl
    rw [lost] at inbox
    have same : (network.asking target).deliverAll.inbox = network.flush.inbox := inbox
    rw [same]
    rcases collect_cases hears.deliverAll.pongs target with ⟨apart, none⟩ |
      ⟨later, sender, status, earlier, split, apart, some⟩
    · exact .inl ⟨apart, congrArg Prod.fst none, congrArg Prod.snd none⟩
    · exact .inr ⟨later, sender, status, earlier, split, apart, congrArg Prod.fst some,
        congrArg Prod.snd some⟩

theorem flush_of_settled (settled : network.inFlight = []) : network.flush = network := by
  cases network
  cases settled
  rfl

/-- The four cells after a ping to the first one whose reply nobody has collected. -/
theorem exists_uncollected : ∃ network : Network, network.Reachable ∧ network.grid = .fourCells ∧
    network.inFlight = [] ∧ network.node? ⟨0, 0⟩ = some (Node.fresh .fourCells ⟨0, 0⟩) ∧
      network.inbox = [((Grid.fourCells.neighborAt ⟨0, 0⟩).address,
        .pong "node_0_0" (Node.fresh .fourCells ⟨0, 0⟩).status)] := by
  have start : (fresh .fourCells).Reachable := reachable_fresh rfl (by decide)
  have onGrid : Grid.fourCells.contains ⟨0, 0⟩ = true := by decide
  have found := Grid.addressOf_neighborAt onGrid
  have there : (fresh .fourCells).flush.node? ⟨0, 0⟩ = some (Node.fresh .fourCells ⟨0, 0⟩) :=
    node?_fresh onGrid
  have few := Node.size_neighbors_fresh_le .fourCells ⟨0, 0⟩
  have sent := Message.overWire_of_getsThrough ((Node.getsThrough_pong_iff few).mpr
    (Node.pongSize_le_of_short rfl few (by decide)))
  have inbox := start.hears.inbox_asking start.wellFormed found there
  rw [sent] at inbox
  have asked : (fresh .fourCells).perform (.send ⟨0, 0⟩ (.ping controllerId [])) =
      (fresh .fourCells).asking (Grid.fourCells.neighborAt ⟨0, 0⟩).address := by
    have sends : (fresh .fourCells).send ⟨0, 0⟩ (.ping controllerId []) = .ok _ := send_eq_ok found _
    rw [perform, sends]
    rfl
  refine ⟨_, (start.perform (.send ⟨0, 0⟩ (.ping controllerId []))).perform .flush, ?_⟩
  rw [asked]
  exact ⟨(sameSetting_deliverAll _).grid, inFlight_deliverAll _, (node?_asking _ _ _).trans there, inbox⟩

/-- The four cells answer a ping with what their nodes are. -/
theorem ping_of_reachable_fourCells : (fresh .fourCells).Reachable ∧ ∃ after,
    (fresh .fourCells).ping ⟨0, 0⟩ = .ok (some (Node.fresh .fourCells ⟨0, 0⟩).status, after) := by
  have start : (fresh .fourCells).Reachable := reachable_fresh rfl (by decide)
  have onGrid : Grid.fourCells.contains ⟨0, 0⟩ = true := by decide
  obtain ⟨target, node, answer, after, -, pinged, comes⟩ := ping_of_reachable start onGrid
  have there : (fresh .fourCells).node? ⟨0, 0⟩ = some node := (comes.nodes _).symm.trans comes.there
  obtain rfl := Option.some.inj ((node?_fresh onGrid).symm.trans there)
  obtain ⟨rfl, -⟩ := comes.current
    (Node.pongSize_le_of_short rfl (Node.size_neighbors_fresh_le .fourCells ⟨0, 0⟩) (by decide))
  exact ⟨start, after, pinged⟩

/-- A ping may answer a status that the node no longer has. -/
theorem stale_of_longParcel : ¬ ∀ (network : Network) (cell : Coord) (status : NodeStatus)
    (after : Network), network.Reachable → network.grid.contains cell = true →
    network.ping cell = .ok (some status, after) →
      (after.node? cell).map Node.status = some status := by
  intro always
  obtain ⟨network, reached, grid, flying, fresh, inbox⟩ := exists_uncollected
  let action : NetworkAction := .localInject ⟨0, 0⟩ Node.longParcel.id "" 10
  have free : network.held? ⟨0, 0⟩ Node.longParcel.id = none := by
    rw [held?, fresh]
    rfl
  obtain ⟨item, -, -, -, -, held, -, same, queue⟩ :=
    perform_localInject (isAlive_iff.mpr ⟨_, fresh, rfl⟩) free (by decide : (10 : UInt64) ≠ 0) ""
  have here : (network.perform action).held? ⟨0, 0⟩ Node.longParcel.id = some item :=
    (held ⟨0, 0⟩ Node.longParcel.id).trans (if_pos ⟨rfl, rfl⟩)
  have settled : (network.perform action).flush = network.perform action :=
    flush_of_settled (queue.trans flying)
  have kept : (network.perform action).inbox = network.inbox := network.inbox_updateNode _ _
  have onGrid : (network.perform action).grid.contains ⟨0, 0⟩ = true := by
    rw [same.grid, grid]
    decide
  obtain ⟨target, node, answer, after, found, pinged, comes⟩ :=
    ping_of_reachable (reached.perform action) onGrid
  have there : (network.perform action).node? ⟨0, 0⟩ = some node := by
    rw [← comes.there, comes.nodes, settled]
  rw [held?, there, Option.bind_some] at here
  have long := Node.itemSize_le_pongSize here
  rw [Node.itemSize, Node.length_id_longParcel] at long
  have address : target = (Grid.fourCells.neighborAt ⟨0, 0⟩).address := by
    rw [same.grid, grid] at found
    exact Except.ok.inj (found.symm.trans (Grid.addressOf_neighborAt (by decide)))
  have entries : (network.perform action).flush.inbox =
      [(target, .pong "node_0_0" (Node.fresh .fourCells ⟨0, 0⟩).status)] := by
    rw [settled, kept, inbox, address]
  rcases comes.leftover (by rw [datagramLimit]; omega) with ⟨none, -⟩ |
    ⟨later, sender, status, earlier, split, -, rfl, -⟩
  · exact none _ (entries ▸ List.mem_singleton_self _) rfl
  · have stale : status = (Node.fresh .fourCells ⟨0, 0⟩).status := by
      have member : (target, .pong sender status) ∈
          [(target, Message.pong "node_0_0" (Node.fresh .fourCells ⟨0, 0⟩).status)] :=
        entries ▸ split ▸ List.mem_append_right _ List.mem_cons_self
      have same := congrArg Prod.snd (List.mem_singleton.mp member)
      exact (Message.pong.inj same).2
    have current := always _ _ _ _ (reached.perform action) onGrid pinged
    rw [comes.there, Option.map_some, stale] at current
    have count : node.store.size = 0 := congrArg NodeStatus.itemCount (Option.some.inj current)
    have entry := SortedMap.get?_eq_some_iff.mp here
    rw [List.eq_nil_of_length_eq_zero count] at entry
    cases entry

end Network
end GridDiffusion
