import GridDiffusion.Network.Lockstep
import GridDiffusion.Proofs.Message.Wire
import GridDiffusion.Proofs.Node.Cell
/-! Delivery, cell by cell: a node handles the messages that are handed to its cell in the order in
which they were sent, and the nodes do not get into each other's way. -/
namespace GridDiffusion

namespace Node
variable {node : Node} {arrivals : List (Message × Address)} {id : String}

def handleAll (node : Node) (arrivals : List (Message × Address)) : Node :=
  arrivals.foldl (fun node arrival => (node.handle arrival.1 arrival.2).2) node

theorem LivesAt.handleAll {grid : Grid} {cell : Coord} (lives : node.LivesAt grid cell)
    (arrivals : List (Message × Address)) : (node.handleAll arrivals).LivesAt grid cell := by
  induction arrivals generalizing node with
  | nil => exact lives
  | cons arrival rest ih => exact ih (lives.handle arrival.1 arrival.2)

theorem samePlace_handleAll (node : Node) (arrivals : List (Message × Address)) :
    SamePlace node (node.handleAll arrivals) := by
  induction arrivals generalizing node with
  | nil => exact .refl node
  | cons arrival rest ih => exact (node.samePlace_handle arrival.1 arrival.2).trans (ih _)

theorem handleAll_of_dead (dead : node.alive = false) (empty : node.EmptyIfDead)
    (arrivals : List (Message × Address)) : node.handleAll arrivals = node := by
  induction arrivals with
  | nil => rfl
  | cons arrival rest ih =>
    rw [handleAll, List.foldl_cons, handle_of_dead dead empty]
    exact ih

theorem held_of_handleAll {item : Item}
    (held : (node.handleAll arrivals).store.get? id = some item) :
    node.store.get? id = some item ∨ ∃ arrival ∈ arrivals, arrival.1.arrival? id = some item := by
  induction arrivals generalizing node with
  | nil => exact .inl held
  | cons arrival rest ih =>
    rcases ih held with early | ⟨later, member, brought⟩
    · rcases held_of_handle early with before | brought
      · exact .inl before
      · exact .inr ⟨arrival, List.mem_cons_self, brought⟩
    · exact .inr ⟨later, List.mem_cons_of_mem _ member, brought⟩

theorem generation_handleAll (node : Node) (arrivals : List (Message × Address)) :
    (node.handleAll arrivals).generation = node.generation := by
  induction arrivals generalizing node with
  | nil => rfl
  | cons arrival rest ih =>
    obtain ⟨_, _, handled⟩ := node.handle_eq arrival.1 arrival.2
    rw [handleAll, List.foldl_cons, handled]
    exact ih _

/-- Where no message kills, the first one that brings an item under a free id has it taken in. -/
theorem get?_handleAll (alive : node.alive = true)
    (lasting : ∀ arrival ∈ arrivals, arrival.1.kind ≠ .die) (id : String) :
    (node.handleAll arrivals).alive = true ∧ (node.handleAll arrivals).store.get? id =
      (node.store.get? id).or (arrivals.findSome? (·.1.arrival? id)) := by
  induction arrivals generalizing node with
  | nil => exact ⟨alive, Option.or_none.symm⟩
  | cons arrival rest ih =>
    have here := lasting arrival List.mem_cons_self
    have others := fun other member => lasting other (List.mem_cons_of_mem _ member)
    obtain ⟨after, held⟩ := ih ((node.alive_handle here arrival.2).trans alive) others
    refine ⟨after, held.trans ?_⟩
    rw [get?_handle alive here, Option.or_assoc, List.findSome?_cons]
    cases arrival.1.arrival? id <;> rfl

theorem handleAll_pongs (pongs : ∀ arrival ∈ arrivals, arrival.1.kind = .pong) :
    node.handleAll arrivals = node := by
  induction arrivals with
  | nil => rfl
  | cons arrival rest ih =>
    obtain ⟨message, source⟩ := arrival
    have first := pongs _ List.mem_cons_self
    cases message with
    | pong => exact ih fun other member => pongs other (List.mem_cons_of_mem _ member)
    | _ => cases first

end Node

namespace Network
variable {network : Network} {cell : Coord} {packet : Packet}

def held? (network : Network) (cell : Coord) (id : String) : Option Item :=
  (network.node? cell).bind fun node => node.store.get? id

def isAlive (network : Network) (cell : Coord) : Bool := (network.node? cell).any (·.alive)

/-- What a delivery leaves alone in every network. -/
structure SameSetting (before after : Network) : Prop where
  grid : after.grid = before.grid
  controller : after.controller = before.controller
  cutLinks : after.cutLinks = before.cutLinks

theorem SameSetting.refl (network : Network) : SameSetting network network := ⟨rfl, rfl, rfl⟩

theorem SameSetting.trans {first second third : Network} (left : SameSetting first second)
    (right : SameSetting second third) : SameSetting first third :=
  ⟨right.grid.trans left.grid, right.controller.trans left.controller,
    right.cutLinks.trans left.cutLinks⟩

theorem SameSetting.symm {before after : Network} (same : SameSetting before after) :
    SameSetting after before :=
  ⟨same.grid.symm, same.controller.symm, same.cutLinks.symm⟩

theorem node?_of_place (network : Network) {place : Fin network.grid.cellCount}
    (found : network.grid.place? cell = some place) :
    network.node? cell = some (network.nodes.get place) := by
  rw [node?, found]
  rfl

theorem node?_eq_none_iff : network.node? cell = none ↔ network.grid.contains cell = false := by
  rw [node?, Option.map_eq_none_iff, Grid.place?_eq_none_iff]

theorem contains_of_node? {node : Node} (found : network.node? cell = some node) :
    network.grid.contains cell = true := by
  cases inside : network.grid.contains cell with
  | true => rfl
  | false => cases (node?_eq_none_iff.mpr inside).symm.trans found

theorem node?_setNode (network : Network) (place : Fin network.grid.cellCount) (node : Node)
    (cell : Coord) : (network.setNode place node).node? cell =
      if network.grid.cellAt place = cell then some node else network.node? cell := by
  by_cases here : network.grid.cellAt place = cell
  · subst here
    rw [if_pos rfl, (network.setNode place node).node?_of_place (network.grid.place?_cellAt place)]
    exact congrArg some (Vector.getElem_set_self place.isLt)
  · rw [if_neg here]
    cases found : network.grid.place? cell with
    | none =>
      have outside := Grid.place?_eq_none_iff.mp found
      rw [node?_eq_none_iff.mpr outside]
      exact node?_eq_none_iff.mpr outside
    | some other =>
      have apart : place.val ≠ other.val := fun same =>
        here (Fin.ext same ▸ Grid.cellAt_of_place? found)
      rw [network.node?_of_place found, (network.setNode place node).node?_of_place found]
      exact congrArg some (Vector.getElem_set_ne place.isLt other.isLt apart)

theorem node?_updateNode (network : Network) (coord cell : Coord) (change : Node → Node) :
    (network.updateNode coord change).node? cell =
      if coord = cell then (network.node? cell).map change else network.node? cell := by
  unfold updateNode
  split
  next place found =>
    rw [node?_setNode, Grid.cellAt_of_place? found]
    split
    next here => rw [← here, network.node?_of_place found]; rfl
    · rfl
  next missing =>
    split
    next here =>
      have nowhere := node?_eq_none_iff.mpr (Grid.place?_eq_none_iff.mp missing)
      rw [← here, nowhere]
      rfl
    · rfl

/-- What a datagram hands to a cell: a message and the address to answer. -/
def handed? (network : Network) (cell : Coord) (packet : Packet) : Option (Message × Address) :=
  if (packet.source, packet.target) ∈ network.cutLinks ∨ packet.target = network.controller then none
  else if network.grid.coordAt? packet.target = some cell then
    packet.message.overWire.toOption.map (·, packet.source)
  else none

theorem handed?_of_sameSetting {before after : Network} (same : SameSetting before after)
    (cell : Coord) (packet : Packet) : after.handed? cell packet = before.handed? cell packet := by
  rw [handed?, handed?, same.grid, same.controller, same.cutLinks]

theorem handed?_eq_some_iff {message : Message} {source : Address} :
    network.handed? cell packet = some (message, source) ↔
      (packet.source, packet.target) ∉ network.cutLinks ∧ packet.target ≠ network.controller ∧
        network.grid.coordAt? packet.target = some cell ∧ packet.message.overWire = .ok message ∧
          packet.source = source := by
  unfold handed?
  split
  next lost =>
    simp only [reduceCtorEq, false_iff]
    intro parts
    obtain ⟨uncut, away, -⟩ := parts
    exact lost.elim uncut away
  next open_ =>
    rw [not_or] at open_
    split
    next arrives =>
      cases packet.message.overWire <;> simp [Except.toOption, open_, arrives]
    next elsewhere => simp [elsewhere]

/-- Whatever a datagram does: it is lost or reaches the controller and every node stays as it is, or
one node handles its message. -/
theorem deliver_cases (network : Network) (packet : Packet) :
    (∀ cell, network.handed? cell packet = none) ∧
        (∃ inbox delivered lost,
          network.deliver packet = ({ network with inbox, delivered, lost }, [])) ∨
      ∃ place message, packet.message.overWire = .ok message ∧
        (∀ cell, network.handed? cell packet =
          if network.grid.cellAt place = cell then some (message, packet.source) else none) ∧
        network.deliver packet =
          ({ network with delivered := network.delivered + 1 }.setNode place
              ((network.nodes.get place).handle message packet.source).2,
            (((network.nodes.get place).handle message packet.source).1.map fun out =>
              (⟨packet.target, out.target, out.message⟩ : Packet)).toList) := by
  unfold deliver handed?
  by_cases cut : (packet.source, packet.target) ∈ network.cutLinks
  · exact .inl ⟨fun _ => if_pos (.inl cut), _, _, _, if_pos (by simpa using cut)⟩
  · rw [if_neg (by simpa using cut)]
    cases sent : packet.message.overWire with
    | error cause =>
      refine .inl ⟨fun cell => ?_, _, _, _, rfl⟩
      simp [Except.toOption]
    | ok message =>
      dsimp only
      by_cases home : packet.target = network.controller
      · exact .inl ⟨fun _ => if_pos (.inr home), _, _, _, if_pos home⟩
      · rw [if_neg home]
        cases target : network.grid.coordAt? packet.target with
        | none =>
          refine .inl ⟨fun cell => ?_, _, _, _, rfl⟩
          simp [cut, home]
        | some coord =>
          obtain ⟨place, found⟩ := Grid.exists_place (Grid.contains_of_coordAt? target)
          refine .inr ⟨place, message, rfl, fun cell => ?_, ?_⟩
          · simp [cut, home, Grid.cellAt_of_place? found, Except.toOption]
          · rw [Option.bind_some, found]
            rfl

theorem sameSetting_deliver (network : Network) (packet : Packet) :
    SameSetting network (network.deliver packet).1 := by
  rcases network.deliver_cases packet with ⟨-, _, _, _, same⟩ | ⟨_, _, -, -, same⟩ <;>
    exact same ▸ ⟨rfl, rfl, rfl⟩

theorem node?_deliver (network : Network) (packet : Packet) (cell : Coord) :
    (network.deliver packet).1.node? cell =
      (network.node? cell).map (·.handleAll (network.handed? cell packet).toList) := by
  rcases network.deliver_cases packet with ⟨nothing, _, _, _, same⟩ | ⟨place, message, -, handed, same⟩
  · rw [same, nothing]
    exact Option.map_id.symm ▸ rfl
  · rw [same, handed, node?_setNode]
    by_cases here : network.grid.cellAt place = cell
    · have found := network.node?_of_place (here ▸ network.grid.place?_cellAt place)
      rw [if_pos here, if_pos here, found]
      rfl
    · rw [if_neg here, if_neg here]
      exact Option.map_id.symm ▸ rfl

theorem kind_of_mem_replies {reply : Packet} (set : reply ∈ (network.deliver packet).2) :
    reply.message.kind = .pong ∧ packet.message.kind = .ping := by
  rcases network.deliver_cases packet with ⟨-, _, _, _, same⟩ | ⟨place, message, sent, -, same⟩
  · rw [same] at set
    cases set
  · rw [same] at set
    have kind := Message.kind_overWire sent
    cases message with
    | ping sender data =>
      obtain rfl : reply = _ := List.mem_singleton.mp set
      exact ⟨rfl, kind.symm⟩
    | _ => cases set

theorem back_of_mem_replies {reply : Packet} (set : reply ∈ (network.deliver packet).2) :
    reply.source = packet.target ∧ reply.target = packet.source := by
  rcases network.deliver_cases packet with ⟨-, _, _, _, same⟩ | ⟨place, message, -, -, same⟩
  · rw [same] at set
    cases set
  · rw [same] at set
    cases message with
    | ping sender data =>
      obtain rfl : reply = _ := List.mem_singleton.mp set
      exact ⟨rfl, rfl⟩
    | _ => cases set

def handed (network : Network) (cell : Coord) (packets : List Packet) : List (Message × Address) :=
  packets.filterMap (network.handed? cell)

theorem mem_handed_iff {packets : List Packet} {message : Message} {source : Address} :
    (message, source) ∈ network.handed cell packets ↔
      ∃ packet ∈ packets, network.handed? cell packet = some (message, source) :=
  List.mem_filterMap

theorem kind_of_mem_handed {packets : List Packet} {kind : MessageKind} {arrival : Message × Address}
    (kinds : ∀ packet ∈ packets, packet.message.kind = kind)
    (member : arrival ∈ network.handed cell packets) : arrival.1.kind = kind := by
  obtain ⟨packet, inside, given⟩ := mem_handed_iff.mp member
  obtain ⟨-, -, -, sent, -⟩ := handed?_eq_some_iff.mp given
  exact (Message.kind_overWire sent).trans (kinds packet inside)

private theorem foldl_deliver (network : Network) (set : List Packet) (packets : List Packet) :
    packets.foldl (fun (network, replies) packet =>
        let (network, more) := network.deliver packet
        (network, replies ++ more)) (network, set) =
      ((network.deliverEach packets).1, set ++ (network.deliverEach packets).2) := by
  induction packets generalizing network set with
  | nil => simp [deliverEach]
  | cons packet rest ih =>
    have unfolded : network.deliverEach (packet :: rest) = rest.foldl _
        ((network.deliver packet).1, [] ++ (network.deliver packet).2) := rfl
    rw [List.foldl_cons, ih, unfolded, ih, List.nil_append, List.append_assoc]

theorem deliverEach_cons (network : Network) (packet : Packet) (rest : List Packet) :
    network.deliverEach (packet :: rest) =
      (((network.deliver packet).1.deliverEach rest).1,
        (network.deliver packet).2 ++ ((network.deliver packet).1.deliverEach rest).2) := by
  rw [deliverEach, List.foldl_cons, foldl_deliver]
  rfl

theorem sameSetting_deliverEach (network : Network) (packets : List Packet) :
    SameSetting network (network.deliverEach packets).1 := by
  induction packets generalizing network with
  | nil => exact .refl network
  | cons packet rest ih =>
    rw [deliverEach_cons]
    exact (network.sameSetting_deliver packet).trans (ih _)

/-- The nodes do not get into each other's way: each handles what is handed to its cell. -/
theorem node?_deliverEach (network : Network) (packets : List Packet) (cell : Coord) :
    (network.deliverEach packets).1.node? cell =
      (network.node? cell).map (·.handleAll (network.handed cell packets)) := by
  induction packets generalizing network with
  | nil => exact Option.map_id.symm ▸ rfl
  | cons packet rest ih =>
    have later : (network.deliver packet).1.handed cell rest = network.handed cell rest :=
      List.filterMap_congr fun other _ =>
        handed?_of_sameSetting (network.sameSetting_deliver packet) cell other
    have parts : network.handed cell (packet :: rest) =
        (network.handed? cell packet).toList ++ network.handed cell rest := by
      rw [handed, List.filterMap_cons]
      cases network.handed? cell packet <;> rfl
    rw [deliverEach_cons, ih, node?_deliver, later, parts, Option.map_map]
    congr
    funext node
    exact List.foldl_append.symm

theorem kind_of_mem_deliverEach {packets : List Packet} {reply : Packet}
    (set : reply ∈ (network.deliverEach packets).2) :
    reply.message.kind = .pong ∧ ∃ packet ∈ packets, packet.message.kind = .ping := by
  induction packets generalizing network with
  | nil => cases set
  | cons packet rest ih =>
    rw [deliverEach_cons] at set
    rcases List.mem_append.mp set with now | later
    · obtain ⟨pong, ping⟩ := kind_of_mem_replies now
      exact ⟨pong, packet, List.mem_cons_self, ping⟩
    · obtain ⟨pong, other, member, ping⟩ := ih later
      exact ⟨pong, other, List.mem_cons_of_mem _ member, ping⟩

theorem back_of_mem_deliverEach {packets : List Packet} {reply : Packet}
    (set : reply ∈ (network.deliverEach packets).2) :
    ∃ packet ∈ packets, reply.source = packet.target ∧ reply.target = packet.source := by
  induction packets generalizing network with
  | nil => cases set
  | cons packet rest ih =>
    rw [deliverEach_cons] at set
    rcases List.mem_append.mp set with now | later
    · exact ⟨packet, List.mem_cons_self, back_of_mem_replies now⟩
    · obtain ⟨other, member, back⟩ := ih later
      exact ⟨other, List.mem_cons_of_mem _ member, back⟩

def requeue (network : Network) (queue : List Packet) : Network :=
  { network with inFlight := queue }

/-- What the delivery of everything in flight sets off, in order. -/
def replies (network : Network) : List Packet :=
  ((network.requeue []).deliverEach network.inFlight).2

/-- Nothing stays in flight: the replies are pongs, and these set off nothing more. -/
theorem inFlight_deliverAll (network : Network) : network.deliverAll.inFlight = [] := by
  apply List.eq_nil_iff_forall_not_mem.mpr
  intro reply member
  obtain ⟨-, packet, set, ping⟩ := kind_of_mem_deliverEach member
  obtain ⟨pong, -⟩ := kind_of_mem_deliverEach set
  exact absurd (pong.symm.trans ping) nofun

theorem sameSetting_deliverAll (network : Network) : SameSetting network network.deliverAll := by
  obtain ⟨pass, defined⟩ : ∃ pass, pass = { network with inFlight := [] }.deliverEach
    network.inFlight := ⟨_, rfl⟩
  have emptied := sameSetting_deliverEach { network with inFlight := [] } network.inFlight
  have first : SameSetting network pass.1 :=
    defined ▸ ⟨emptied.grid, emptied.controller, emptied.cutLinks⟩
  have second : SameSetting pass.1 (pass.1.deliverEach pass.2).1 := sameSetting_deliverEach ..
  have both := first.trans second
  rw [deliverAll, ← defined]
  exact ⟨both.grid, both.controller, both.cutLinks⟩

/-- A delivery hands to each node what is in flight to its cell, and the replies change no node. -/
theorem node?_deliverAll (network : Network) (cell : Coord) :
    network.deliverAll.node? cell =
      (network.node? cell).map (·.handleAll (network.handed cell network.inFlight)) := by
  obtain ⟨pass, defined⟩ : ∃ pass, pass = { network with inFlight := [] }.deliverEach
    network.inFlight := ⟨_, rfl⟩
  have first : pass.1.node? cell =
      (network.node? cell).map (·.handleAll (network.handed cell network.inFlight)) :=
    defined ▸ node?_deliverEach { network with inFlight := [] } network.inFlight cell
  have second : (pass.1.deliverEach pass.2).1.node? cell = pass.1.node? cell := by
    rw [node?_deliverEach]
    have same : (fun node : Node => node.handleAll (pass.1.handed cell pass.2)) = id := by
      funext node
      refine Node.handleAll_pongs fun arrival => kind_of_mem_handed fun reply set => ?_
      rw [defined] at set
      exact (kind_of_mem_deliverEach set).1
    rw [same, Option.map_id, id_eq]
  rw [← first, ← second, deliverAll, ← defined]
  rfl

end Network
end GridDiffusion
