import GridDiffusion.Proofs.Network.Count
import GridDiffusion.Proofs.Node.Log
/-! Deliveries in another order: which ids are held afterwards does not depend on the order of the
items in flight, although the first one to arrive is the one that is kept. -/
namespace GridDiffusion

theorem isSome_findSome?_of_perm {Source Target : Type} {first second : List Source}
    (same : first.Perm second) (found : Source → Option Target) :
    (first.findSome? found).isSome = (second.findSome? found).isSome := by
  rw [Bool.eq_iff_iff, List.findSome?_isSome_iff, List.findSome?_isSome_iff]
  simp only [same.mem_iff]

namespace Node
variable {node : Node} {arrivals : List (Message × Address)}

theorem handleAll_items_of_dead (dead : node.alive = false)
    (items : ∀ arrival ∈ arrivals, arrival.1.kind = .information) :
    node.handleAll arrivals = node := by
  induction arrivals with
  | nil => rfl
  | cons arrival rest ih =>
    have refused : (node.handle arrival.1 arrival.2).2 = node := by
      have item := items arrival List.mem_cons_self
      obtain ⟨message, source⟩ := arrival
      cases message with
      | information sender parcel => exact receive_of_dead dead sender parcel
      | _ => cases item
    rw [handleAll, List.foldl_cons, refused]
    exact ih fun other member => items other (List.mem_cons_of_mem _ member)

/-- Items leave a node as alive as it was, and an alive one takes in the first one under a free id.
-/
theorem handleAll_items (items : ∀ arrival ∈ arrivals, arrival.1.kind = .information) :
    (node.handleAll arrivals).alive = node.alive ∧ ∀ id, (node.handleAll arrivals).store.get? id =
      (node.store.get? id).or
        (if node.alive then arrivals.findSome? (·.1.arrival? id) else none) := by
  cases alive : node.alive with
  | true =>
    have lasting : ∀ arrival ∈ arrivals, arrival.1.kind ≠ .die :=
      fun arrival member die => absurd ((items arrival member).symm.trans die) nofun
    exact ⟨(get?_handleAll alive lasting "").1, fun id => (get?_handleAll alive lasting id).2⟩
  | false =>
    rw [handleAll_items_of_dead alive items]
    exact ⟨alive, fun id => Option.or_none.symm⟩

end Node

namespace Network
variable {network : Network} {queue : List Packet} {cell : Coord} {id : String}

def CarriesItems (network : Network) : Prop :=
  ∀ packet ∈ network.inFlight, packet.message.kind = .information

/-- A datagram in flight that an alive node at a cell would take in if it were the first: an item
that fits, with energy to spare, over an open link to the cell's address. -/
structure Reaches (network : Network) (cell : Coord) (packet : Packet) (sender : String)
    (parcel : Parcel) : Prop where
  item : packet.message = .information sender parcel
  fits : (Message.information sender parcel).Fits
  uncut : (packet.source, packet.target) ∉ network.cutLinks
  away : packet.target ≠ network.controller
  target : network.grid.coordAt? packet.target = some cell
  alive : network.isAlive cell = true
  charged : 2 ≤ parcel.energy.toInt

/-- The copy that a parcel turns into where it is taken in. -/
structure IsCopy (item : Item) (sender : String) (parcel : Parcel) : Prop where
  content : item.content = parcel.content
  energy : item.energy.toNat = parcel.energy.toInt.toNat - 1
  hops : item.hops.toNat = min (parcel.hops.toNat + 1) (2 ^ 64 - 1)
  provenance : item.provenance = .peer sender

/-- A delivery of items takes in, at an alive cell, the first one under a free id. -/
theorem held?_deliverAll (items : network.CarriesItems) (cell : Coord) (id : String) :
    network.deliverAll.held? cell id = (network.held? cell id).or
      (if network.isAlive cell then network.inFlight.findSome? (network.brought? cell id)
        else none) := by
  rw [held?, held?, isAlive, node?_deliverAll]
  cases network.node? cell with
  | none => rfl
  | some node =>
    have given : ∀ arrival ∈ network.handed cell network.inFlight, arrival.1.kind = .information :=
      fun _ => kind_of_mem_handed items
    have handled : (node.handleAll (network.handed cell network.inFlight)).store.get? id = _ :=
      (Node.handleAll_items given).2 id
    rw [Option.map_some, Option.bind_some, Option.bind_some, Option.any_some, handled, handed,
      findSome?_filterMap]
    rfl

theorem isCopy_of_arrival? {parcel : Parcel} {sender : String} {item : Item}
    (taken : parcel.arrival? sender = some item) :
    2 ≤ parcel.energy.toInt ∧ IsCopy item sender parcel := by
  obtain ⟨charged, content, energy, hops, provenance⟩ :=
    Parcel.exists_arrival_iff.mp ⟨item, taken, rfl, rfl, rfl, rfl⟩
  exact ⟨charged, content, energy, hops, provenance⟩

/-- What a datagram brings to an alive cell is what becomes of the item that reaches the cell with
it. -/
theorem brought?_iff_reaches {packet : Packet} {item : Item} :
    network.isAlive cell = true ∧ network.brought? cell id packet = some item ↔
      ∃ sender parcel, network.Reaches cell packet sender parcel ∧ parcel.id = id ∧
        parcel.arrival? sender = some item := by
  constructor
  · intro brings
    obtain ⟨alive, brings⟩ := brings
    obtain ⟨⟨message, source⟩, given, brought⟩ := Option.bind_eq_some_iff.mp brings
    obtain ⟨uncut, away, target, sent, -⟩ := handed?_eq_some_iff.mp given
    obtain ⟨sender, parcel, rfl, named, taken⟩ := Message.arrival?_eq_some_iff.mp brought
    have same := Message.of_overWire_information sent
    have fits : (Message.information sender parcel).Fits := by
      rw [same, Message.overWire_information] at sent
      split at sent
      next fits => exact fits
      · cases sent
    have charged := (isCopy_of_arrival? taken).1
    exact ⟨sender, parcel, ⟨same, fits, uncut, away, target, alive, charged⟩, named, taken⟩
  · intro reaches
    obtain ⟨sender, parcel, reaches, named, taken⟩ := reaches
    have sent : packet.message.overWire = .ok (.information sender parcel) := by
      rw [reaches.item, Message.overWire_information, if_pos reaches.fits]
    have given := handed?_eq_some_iff.mpr
      ⟨reaches.uncut, reaches.away, reaches.target, sent, rfl⟩
    have brought := Message.arrival?_eq_some_iff.mpr ⟨sender, parcel, rfl, named, taken⟩
    exact ⟨reaches.alive, Option.bind_eq_some_iff.mpr ⟨_, given, brought⟩⟩

/-- What a delivery does for the holdings of the cells, whatever the order of the queue. -/
structure TakesIn (network : Network) : Prop where
  kept {cell : Coord} {id : String} {item : Item} : network.held? cell id = some item →
    network.flush.held? cell id = some item
  /-- An id is taken in exactly where something in flight under this id reaches the cell. -/
  taken {cell : Coord} {id : String} : network.held? cell id = none →
    ((network.flush.held? cell id).isSome = true ↔ ∃ packet ∈ network.inFlight,
      ∃ sender parcel, network.Reaches cell packet sender parcel ∧ parcel.id = id)
  /-- Each new copy is made by something in flight. -/
  made {cell : Coord} {id : String} {item : Item} : network.held? cell id = none →
    network.flush.held? cell id = some item → ∃ packet ∈ network.inFlight,
      ∃ sender parcel, network.Reaches cell packet sender parcel ∧ parcel.id = id ∧
        IsCopy item sender parcel

theorem CarriesItems.exists_reaches (items : network.CarriesItems) {item : Item}
    (free : network.held? cell id = none) (held : network.flush.held? cell id = some item) :
    ∃ packet ∈ network.inFlight, ∃ sender parcel, network.Reaches cell packet sender parcel ∧
      parcel.id = id ∧ IsCopy item sender parcel := by
  rw [flush, held?_deliverAll items, free, Option.none_or] at held
  obtain ⟨alive, found⟩ := Option.ite_none_right_eq_some.mp held
  obtain ⟨packet, inside, brought⟩ := List.exists_of_findSome?_eq_some found
  obtain ⟨sender, parcel, reaches, named, taken⟩ := brought?_iff_reaches.mp ⟨alive, brought⟩
  exact ⟨packet, inside, sender, parcel, reaches, named, (isCopy_of_arrival? taken).2⟩

theorem CarriesItems.isSome_of_reaches (items : network.CarriesItems) {packet : Packet}
    {sender : String} {parcel : Parcel} (inside : packet ∈ network.inFlight)
    (reaches : network.Reaches cell packet sender parcel) :
    (network.flush.held? cell parcel.id).isSome = true := by
  have charged : 1 < parcel.energy.toInt := reaches.charged
  obtain ⟨item, taken⟩ := Parcel.exists_arrival sender charged
  obtain ⟨alive, brought⟩ := brought?_iff_reaches.mpr ⟨sender, parcel, reaches, rfl, taken⟩
  have found : (network.inFlight.findSome? (network.brought? cell parcel.id)).isSome = true :=
    List.findSome?_isSome_iff.mpr ⟨packet, inside, Option.isSome_iff_exists.mpr ⟨item, brought⟩⟩
  rw [flush, held?_deliverAll items, if_pos alive, Option.isSome_or, found, Bool.or_true]

theorem CarriesItems.takesIn (items : network.CarriesItems) : network.TakesIn where
  kept {cell id item} held := by rw [flush, held?_deliverAll items, held, Option.some_or]
  made := items.exists_reaches
  taken {cell id} free := by
    constructor
    · intro holds
      obtain ⟨item, held⟩ := Option.isSome_iff_exists.mp holds
      obtain ⟨packet, inside, sender, parcel, reaches, named, -⟩ := items.exists_reaches free held
      exact ⟨packet, inside, sender, parcel, reaches, named⟩
    · intro offered
      obtain ⟨packet, inside, sender, parcel, reaches, rfl⟩ := offered
      exact items.isSome_of_reaches inside reaches

/-- What two networks have in common that hold the same ids, if not the same copies. -/
structure HoldsAlike (first second : Network) : Prop where
  held (cell : Coord) (id : String) :
    (first.held? cell id).isSome = (second.held? cell id).isSome
  alive (cell : Coord) : first.isAlive cell = second.isAlive cell
  generation (cell : Coord) :
    (first.node? cell).map (·.generation) = (second.node? cell).map (·.generation)
  delivered : first.delivered = second.delivered
  lost : first.lost = second.lost

/-- Whether a datagram reaches a cell does not depend on the queue. -/
theorem Reaches.of_requeue {packet : Packet} {sender : String} {parcel : Parcel}
    (reaches : (network.requeue queue).Reaches cell packet sender parcel) :
    network.Reaches cell packet sender parcel :=
  ⟨reaches.item, reaches.fits, reaches.uncut, reaches.away, reaches.target, reaches.alive,
    reaches.charged⟩

/-- Whether all that reaches a cell under an id has the same content, energy and hops. -/
def ReachedAlike (network : Network) (cell : Coord) (id : String) : Prop :=
  ∀ packet ∈ network.inFlight, ∀ other ∈ network.inFlight,
    ∀ sender parcel otherSender otherParcel, network.Reaches cell packet sender parcel →
      network.Reaches cell other otherSender otherParcel → parcel.id = id → otherParcel.id = id →
        parcel.content = otherParcel.content ∧ parcel.energy = otherParcel.energy ∧
          parcel.hops = otherParcel.hops

theorem CarriesItems.isAlive_deliverAll (items : network.CarriesItems) (cell : Coord) :
    network.deliverAll.isAlive cell = network.isAlive cell := by
  rw [isAlive, isAlive, node?_deliverAll]
  cases network.node? cell with
  | none => rfl
  | some node => exact (Node.handleAll_items fun _ => kind_of_mem_handed items).1

theorem generation_deliverAll (network : Network) (cell : Coord) :
    (network.deliverAll.node? cell).map (·.generation) =
      (network.node? cell).map (·.generation) := by
  rw [node?_deliverAll]
  cases network.node? cell with
  | none => rfl
  | some node => exact congrArg some (node.generation_handleAll _)

theorem CarriesItems.replies_eq_nil (items : network.CarriesItems) : network.replies = [] :=
  Network.replies_eq_nil fun packet inside ping =>
    absurd ((items packet inside).symm.trans ping) nofun

theorem CarriesItems.requeue (items : network.CarriesItems)
    (same : network.inFlight.Perm queue) : (network.requeue queue).CarriesItems :=
  fun packet inside => items packet (same.mem_iff.mpr inside)

theorem CarriesItems.holdsAlike (items : network.CarriesItems)
    (same : network.inFlight.Perm queue) :
    HoldsAlike network.flush (network.requeue queue).flush := by
  have others := items.requeue same
  have counts := network.counts_deliverAll
  have otherCounts := (network.requeue queue).counts_deliverAll
  rw [items.replies_eq_nil, List.append_nil] at counts
  rw [others.replies_eq_nil, List.append_nil] at otherCounts
  refine ⟨fun cell id => ?_, fun cell => ?_, fun cell => ?_, ?_, ?_⟩
  · have found := isSome_findSome?_of_perm same (network.brought? cell id)
    rw [flush, flush, held?_deliverAll items, held?_deliverAll others, Option.isSome_or,
      Option.isSome_or]
    change _ = ((network.held? cell id).isSome || (if network.isAlive cell = true then
      queue.findSome? (network.brought? cell id) else none).isSome)
    split
    · rw [found]
    · rfl
  · exact (items.isAlive_deliverAll cell).trans (others.isAlive_deliverAll cell).symm
  · exact (network.generation_deliverAll cell).trans
      ((network.requeue queue).generation_deliverAll cell).symm
  · exact counts.2.trans ((congrArg _ (same.countP_eq _)).trans otherCounts.2.symm)
  · exact counts.1.trans ((congrArg _ (same.countP_eq _)).trans otherCounts.1.symm)

/-- Copies that were made in two orders have the same parts up to their origin, where all that
reaches the cell has. -/
theorem CarriesItems.copies_alike (items : network.CarriesItems)
    (same : network.inFlight.Perm queue) (alike : network.ReachedAlike cell id) {first second : Item}
    (held : network.flush.held? cell id = some first)
    (otherHeld : (network.requeue queue).flush.held? cell id = some second) :
    first.content = second.content ∧ first.energy = second.energy ∧ first.hops = second.hops := by
  have others := items.requeue same
  cases before : network.held? cell id with
  | some item =>
    have kept := held.symm.trans (items.takesIn.kept before)
    have otherKept := otherHeld.symm.trans (others.takesIn.kept before)
    obtain rfl := Option.some.inj (kept.trans otherKept.symm)
    exact ⟨rfl, rfl, rfl⟩
  | none =>
    obtain ⟨packet, inside, sender, parcel, reaches, named, copy⟩ :=
      items.exists_reaches before held
    obtain ⟨other, otherInside, otherSender, otherParcel, otherReaches, otherNamed, otherCopy⟩ :=
      others.exists_reaches before otherHeld
    obtain ⟨content, energy, hops⟩ := alike packet inside other (same.mem_iff.mpr otherInside)
      sender parcel otherSender otherParcel reaches otherReaches.of_requeue named otherNamed
    refine ⟨?_, UInt64.toNat_inj.mp ?_, UInt64.toNat_inj.mp ?_⟩
    · rw [copy.content, content, otherCopy.content]
    · rw [copy.energy, energy, otherCopy.energy]
    · rw [copy.hops, hops, otherCopy.hops]

/-- Where only items are in flight, their order does not matter for which ids the cells hold after
the delivery, for what is alive, for the generations and for the counts. In each order a new copy is
made by something in flight that reaches its cell; and where all that reaches a cell under an id has
the same content, energy and hops, so have the copies. -/
theorem flush_requeue (items : network.CarriesItems) (same : network.inFlight.Perm queue) :
    HoldsAlike network.flush (network.requeue queue).flush ∧
      network.TakesIn ∧ (network.requeue queue).TakesIn ∧
      ∀ cell id, network.ReachedAlike cell id → ∀ first second,
        network.flush.held? cell id = some first →
        (network.requeue queue).flush.held? cell id = some second →
          first.content = second.content ∧ first.energy = second.energy ∧
            first.hops = second.hops :=
  ⟨items.holdsAlike same, items.takesIn, (items.requeue same).takesIn,
    fun _ _ alike _ _ held otherHeld => items.copies_alike same alike held otherHeld⟩

/-- Three items under one id on their way to one cell. The first and the last would make different
copies, and the one between them has its last unit of energy. -/
def contested : Network := (fresh .fourCells).requeue
  [⟨⟨.loopback, 8999, 0⟩, ⟨.loopback, 9000, 0⟩, .information "controller" ⟨"x", "one", 5, 0⟩⟩,
    ⟨⟨.loopback, 9001, 0⟩, ⟨.loopback, 9000, 0⟩, .information "node_1_0" ⟨"x", "two", 1, 2⟩⟩,
    ⟨⟨.loopback, 9002, 0⟩, ⟨.loopback, 9000, 0⟩, .information "node_0_1" ⟨"x", "two", 3, 7⟩⟩]

theorem flush_requeue_contested : contested.CarriesItems ∧
    HoldsAlike contested.flush (contested.requeue contested.inFlight.reverse).flush := by
  have items : contested.CarriesItems := by
    simp only [CarriesItems, contested, requeue, List.forall_mem_cons]
    exact ⟨rfl, rfl, rfl, List.forall_mem_nil _⟩
  exact ⟨items, (flush_requeue items (List.reverse_perm _).symm).1⟩

end Network
end GridDiffusion
