import Mathlib.Data.List.Forall2
import GridDiffusion.Proofs.Message.RoundTrip
import GridDiffusion.Proofs.Network.Delivery
import GridDiffusion.Proofs.Service.Launch
/-! Delivery to the nodes in service: each of them handles what arrives at its own address, in
order, and they do not get into each other's way. -/
namespace GridDiffusion

/-- What a datagram is to a node: a message and where it comes from, if it is one. -/
def Datagram.arrival? (datagram : Datagram) : Option (Message × Address) :=
  (Message.decode datagram.bytes).toOption.map fun message => (message, datagram.source)

theorem Datagram.arrival?_eq_some_iff {datagram : Datagram} {message : Message} {source : Address} :
    datagram.arrival? = some (message, source) ↔
      Message.decode datagram.bytes = .ok message ∧ datagram.source = source := by
  unfold arrival?
  cases Message.decode datagram.bytes <;> simp [Except.toOption]

def arrivalsAt (address : Address) (deliveries : List Delivery) : List (Message × Address) :=
  deliveries.filterMap fun delivery =>
    if delivery.target = address then delivery.datagram.arrival? else none

theorem mem_arrivalsAt_iff {address : Address} {deliveries : List Delivery}
    {arrival : Message × Address} : arrival ∈ arrivalsAt address deliveries ↔
      ∃ delivery ∈ deliveries, delivery.target = address ∧
        delivery.datagram.arrival? = some arrival := by
  rw [arrivalsAt, List.mem_filterMap]
  simp only [Option.ite_none_right_eq_some]

/-- What arrives at a cell is what was sent to it, if all that was sent arrives and nothing else
does. -/
theorem mem_arrivalsAt_iff_of_sent {Sent : Type} (part : Sent → CellDelivery) {sent : List Sent}
    {grid : Grid} {cell : Coord} {address : Address} {arrivals : List Delivery}
    (targets : ∀ one ∈ sent, grid.addressOf (part one).coord = .ok (part one).delivery.target)
    (arrive : ∀ delivery, delivery ∈ arrivals ↔ delivery ∈ sent.map fun one => (part one).delivery)
    (found : grid.addressOf cell = .ok address) {arrival : Message × Address} :
    arrival ∈ arrivalsAt address arrivals ↔ ∃ one ∈ sent, (part one).coord = cell ∧
      (part one).delivery.datagram.arrival? = some arrival := by
  rw [mem_arrivalsAt_iff]
  constructor
  · rintro ⟨delivery, arrived, target, brought⟩
    obtain ⟨one, inside, rfl⟩ := List.mem_map.mp ((arrive delivery).mp arrived)
    have placed := targets one inside
    rw [target] at placed
    exact ⟨one, inside, Grid.addressOf_injective placed found, brought⟩
  · rintro ⟨one, inside, rfl, brought⟩
    have target := Except.ok.inj ((targets one inside).symm.trans found)
    have arrived := (arrive (part one).delivery).mpr (List.mem_map.mpr ⟨one, inside, rfl⟩)
    exact ⟨_, arrived, target, brought⟩

theorem Link.encode_of_transmit {link : Link} {message : Message} {bytes : ByteArray}
    (sent : link.transmit message = .ok bytes) : message.encode = .ok bytes := by
  unfold transmit at sent
  split at sent
  · cases sent
  next bytes encoded =>
    rw [encoded]
    split at sent
    · exact congrArg Except.ok (Except.ok.inj sent)
    · cases sent

theorem Link.decode_of_transmit {link : Link} {message : Message} {bytes : ByteArray}
    (carried : message.IsCarried) (whole : message.hasNoDouble = true)
    (sent : link.transmit message = .ok bytes) : Message.decode bytes = .ok message :=
  Message.decode_of_encode carried whole (encode_of_transmit sent)

theorem Link.transmit_up {message : Message} (fits : message.Fits) :
    Link.up.transmit message = .ok message.text.toUTF8 := by
  rw [transmit, Message.encode_of_fits fits]

theorem Probe.sendTo_eq_ok {probe : Probe} {grid : Grid} {coord : Coord} {target : Address}
    {message : Message} {bytes : ByteArray} (found : grid.addressOf coord = .ok target)
    (sent : probe.link.transmit message = .ok bytes) :
    probe.sendTo grid coord message = .ok ⟨coord, target, probe.address, bytes⟩ := by
  rw [sendTo, found, ok_mapError, ok_bind, send, Link.send, sent]
  rfl

namespace NodeService
variable {service : NodeService}

def handleAll (service : NodeService) (arrivals : List (Message × Address)) : NodeService :=
  { service with node := service.node.handleAll arrivals }

theorem handleAll_append (service : NodeService) (first second : List (Message × Address)) :
    service.handleAll (first ++ second) = (service.handleAll first).handleAll second := by
  simp only [handleAll, Node.handleAll, List.foldl_append]

theorem receive_eq_handleAll (running : service.isStopped = false) (datagram : Datagram) :
    (service.receive datagram).2 = service.handleAll datagram.arrival?.toList := by
  unfold receive Datagram.arrival?
  rw [if_neg (by simp [running])]
  cases Message.decode datagram.bytes <;> rfl

end NodeService

namespace Services
variable {services : Services} {grid : Grid}

theorem deliver_eq (distinct : (services.map (·.address)).Nodup) (link : Link) (delivery : Delivery) :
    (services.deliver link delivery).2 = services.map fun service =>
      if service.address = delivery.target then (service.receive delivery.datagram).2 else service := by
  induction services with
  | nil => rfl
  | cons service rest ih =>
    rw [List.map_cons, List.nodup_cons] at distinct
    obtain ⟨apart, others⟩ := distinct
    rw [deliver, List.map_cons]
    split
    next here =>
      refine congrArg (_ :: ·) ((List.map_id rest).symm.trans ?_)
      refine List.map_congr_left fun other member => (if_neg fun same => ?_).symm
      exact apart (here ▸ same ▸ List.mem_map.mpr ⟨other, member, rfl⟩)
    next => exact congrArg (service :: ·) (ih others)

/-- The nodes of a grid in service: one for each cell, bound to the cell's address and not stopped.
-/
structure Serves (grid : Grid) (services : Services) : Prop where
  placed : List.Forall₂ (fun cell service => grid.addressOf cell = .ok service.address)
    grid.coords services
  running : ∀ service ∈ services, service.isStopped = false

theorem serves_fresh (grid : Grid) (tickMs : UInt64) :
    Serves grid (Launcher.fresh grid tickMs).services where
  placed := List.forall₂_map_right_iff.mpr <| List.forall₂_same.mpr fun _ member =>
    Grid.addressOf_neighborAt (Grid.mem_coords_iff.mp member)
  running service member := by
    obtain ⟨cell, -, rfl⟩ := List.mem_map.mp member
    rfl

namespace Serves

theorem nodup_addresses (serves : Serves grid services) : (services.map (·.address)).Nodup := by
  have addresses : services.map (·.address) =
      grid.coords.map fun cell => (grid.neighborAt cell).address := by
    rw [← List.forall₂_eq_eq_eq, List.forall₂_map_left_iff, List.forall₂_map_right_iff]
    refine serves.placed.flip.imp fun service cell found => ?_
    exact (Grid.addressOf_eq_ok_iff.mp found).2
  rw [addresses]
  refine List.Nodup.map_on (fun first inside second otherInside same => ?_) grid.nodup_coords
  have found := Grid.addressOf_neighborAt (Grid.mem_coords_iff.mp inside)
  have otherFound := Grid.addressOf_neighborAt (Grid.mem_coords_iff.mp otherInside)
  exact Grid.addressOf_injective (same ▸ found) otherFound

theorem handleAll (serves : Serves grid services)
    (arrivals : NodeService → List (Message × Address)) :
    Serves grid (services.map fun service => service.handleAll (arrivals service)) where
  placed := List.forall₂_map_right_iff.mpr serves.placed
  running service member := by
    obtain ⟨before, inside, rfl⟩ := List.mem_map.mp member
    exact serves.running before inside

theorem deliver (serves : Serves grid services) (link : Link) (delivery : Delivery) :
    (services.deliver link delivery).2 =
      services.map fun service => service.handleAll (arrivalsAt service.address [delivery]) := by
  rw [deliver_eq serves.nodup_addresses]
  refine List.map_congr_left fun service member => ?_
  unfold arrivalsAt
  rw [List.filterMap_cons]
  split
  next here =>
    rw [if_pos here.symm, NodeService.receive_eq_handleAll (serves.running service member)]
    cases delivery.datagram.arrival? <;> rfl
  next elsewhere =>
    rw [if_neg (Ne.symm elsewhere)]
    rfl

theorem deliverAll (serves : Serves grid services) (link : Link) (deliveries : List Delivery) :
    (services.deliverAll link deliveries).2 =
      services.map fun service => service.handleAll (arrivalsAt service.address deliveries) := by
  unfold Services.deliverAll
  generalize ([] : List Delivery) = replies
  induction deliveries generalizing services replies with
  | nil => exact (List.map_id services).symm
  | cons delivery rest ih =>
    rw [List.foldl_cons]
    dsimp only
    rw [serves.deliver link delivery, ih (serves.handleAll _), List.map_map]
    refine List.map_congr_left fun service _ => ?_
    have parts : arrivalsAt service.address (delivery :: rest) =
        arrivalsAt service.address [delivery] ++ arrivalsAt service.address rest :=
      List.filterMap_append (l := [delivery])
    rw [parts, NodeService.handleAll_append]
    rfl

/-- What is done to each node by its address is done to it by its cell. -/
theorem map_eq_zipWith (serves : Serves grid services) {change : NodeService → NodeService}
    {changeAt : Coord → NodeService → NodeService}
    (same : ∀ cell service, grid.addressOf cell = .ok service.address →
      change service = changeAt cell service) :
    services.map change = List.zipWith changeAt grid.coords services := by
  obtain ⟨placed, -⟩ := serves
  generalize grid.coords = cells at placed ⊢
  induction placed with
  | nil => rfl
  | cons found _ ih => rw [List.map_cons, List.zipWith_cons_cons, same _ _ found, ih]

end Serves
end Services
end GridDiffusion
