import GridDiffusion.Proofs.Message.Size
import GridDiffusion.Proofs.Network.Reorder
import GridDiffusion.Proofs.Network.Round
import GridDiffusion.Proofs.Probe.Stats
import GridDiffusion.Proofs.Service.Delivery
/-! Seeding: every item of a batch goes to the cell that was drawn for it under an id of its own, so
none of them is turned away for another, and a grid in service takes in exactly the batch. -/
namespace GridDiffusion

section Steps
variable {Source Target Cause : Type}

theorem mapM_eq_ok_iff {list : List Source} {step : Source → Except Cause Target}
    {results : List Target} : list.mapM step = .ok results ↔
      List.Forall₂ (fun member result => step member = .ok result) list results := by
  induction list generalizing results with
  | nil =>
    rw [List.mapM_nil, List.forall₂_nil_left_iff]
    exact ⟨fun same => (Except.ok.inj same).symm, fun same => congrArg Except.ok same.symm⟩
  | cons head rest ih =>
    rw [List.mapM_cons, List.forall₂_cons_left_iff]
    constructor
    · intro made
      cases here : step head with
      | error cause =>
        rw [here] at made
        cases made
      | ok result =>
        cases others : rest.mapM step with
        | error cause =>
          rw [here, others] at made
          cases made
        | ok later =>
          rw [here, others] at made
          exact ⟨result, later, rfl, ih.mp others, (Except.ok.inj made).symm⟩
    · rintro ⟨result, later, here, others, rfl⟩
      rw [here, ih.mpr others]
      rfl

theorem exists_forall₂ {related : Source → Target → Prop} {list : List Source}
    (each : ∀ member ∈ list, ∃ result, related member result) :
    ∃ results, List.Forall₂ related list results := by
  induction list with
  | nil => exact ⟨[], .nil⟩
  | cons head rest ih =>
    obtain ⟨here, others⟩ := List.forall_mem_cons.mp each
    obtain ⟨result, first⟩ := here
    obtain ⟨results, later⟩ := ih others
    exact ⟨result :: results, .cons first later⟩

theorem exists_getElem?_of_forall₂ {related : Source → Target → Prop} {first : List Source}
    {second : List Target} (all : List.Forall₂ related first second) {index : Nat} {result : Target}
    (found : second[index]? = some result) :
    ∃ member, first[index]? = some member ∧ related member result := by
  induction all generalizing index with
  | nil => cases found
  | cons here _ ih =>
    cases index with
    | zero =>
      obtain rfl := Option.some.inj found
      exact ⟨_, rfl, here⟩
    | succ index => exact ih found

end Steps

namespace Probe
variable {probe : Probe} {grid : Grid} {source : RandomSource} {count stamp : Nat} {energy : Int64}
  {sent : List Seeded} {cell : Coord}

theorem seedId_injective {first second : Nat} (same : seedId first stamp = seedId second stamp) :
    first = second := by
  have spelled := congrArg String.toList same
  simp only [seedId, String.toList_append, List.append_assoc, List.append_cancel_left_eq,
    List.append_cancel_right_eq] at spelled
  exact eq_of_toList_repr spelled

def seedParcel (turn stamp : Nat) (energy : Int64) : Parcel :=
  { id := seedId turn stamp, content := seedContent turn stamp, energy, hops := 0 }

/-- Whether the link takes what is to be sent for one item of a batch. -/
def CanSend (probe : Probe) (turn stamp : Nat) (energy : Int64) : Prop :=
  ∃ bytes, probe.link.transmit (.information probe.senderId (seedParcel turn stamp energy)) = .ok bytes

/-- An item of a batch as it is sent: under its own id, to the address of its cell. -/
structure IsSown (probe : Probe) (grid : Grid) (energy : Int64) (stamp turn : Nat) (one : Seeded) :
    Prop where
  id : one.id = seedId turn stamp
  target : grid.addressOf one.coord = .ok one.delivery.target
  source : one.delivery.datagram.source = probe.address
  reads : Message.decode one.delivery.datagram.bytes =
    .ok (.information probe.senderId (seedParcel turn stamp energy))

/-- One datagram for each item of a batch, in the order of the cells drawn. -/
structure IsBatch (probe : Probe) (grid : Grid) (cells : List Coord) (energy : Int64) (stamp : Nat)
    (sent : List Seeded) : Prop where
  coords : sent.map (·.coord) = cells
  each {turn : Nat} {one : Seeded} : sent[turn]? = some one → probe.IsSown grid energy stamp turn one
  distinct : (sent.map (·.id)).Nodup

/-- The step of a batch for one cell and its turn. -/
theorem seed_eq_ok_iff : probe.seed grid source count energy stamp = .ok sent ↔
    List.Forall₂ (fun place one => (probe.sendTo grid place.1
        (.information probe.senderId (seedParcel place.2 stamp energy))).map
          (fun sent => { sent with id := seedId place.2 stamp : Seeded }) = .ok one)
      (grid.drawCells source count).zipIdx sent := by
  rw [← mapM_eq_ok_iff]
  rfl

theorem isSown_of_sent {turn : Nat} {one : Seeded}
    (made : (probe.sendTo grid cell (.information probe.senderId (seedParcel turn stamp energy))).map
      (fun sent => { sent with id := seedId turn stamp : Seeded }) = .ok one) :
    probe.CanSend turn stamp energy ∧ one.coord = cell ∧ probe.IsSown grid energy stamp turn one := by
  cases found : grid.addressOf cell with
  | error cause =>
    rw [sendTo, found] at made
    cases made
  | ok target =>
    cases sends : probe.link.transmit (.information probe.senderId (seedParcel turn stamp energy)) with
    | error cause =>
      rw [sendTo, found, ok_mapError, ok_bind, send, Link.send, sends] at made
      cases made
    | ok bytes =>
      rw [sendTo_eq_ok found sends] at made
      obtain rfl := Except.ok.inj made
      have carried : Message.IsCarried (.information probe.senderId (seedParcel turn stamp energy)) :=
        trivial
      exact ⟨⟨bytes, sends⟩, rfl, rfl, found, rfl, Link.decode_of_transmit carried rfl sends⟩

theorem length_drawCells (grid : Grid) (source : RandomSource) (count : Nat) :
    (grid.drawCells source count).length = count := by
  rw [Grid.drawCells, List.length_map, List.length_range]

theorem exists_seed_iff : (∃ sent, probe.seed grid source count energy stamp = .ok sent) ↔
    ∀ turn < count, probe.CanSend turn stamp energy := by
  simp only [seed_eq_ok_iff]
  constructor
  · rintro ⟨sent, sown⟩ turn within
    rw [← length_drawCells grid source count] at within
    have drawn : (grid.drawCells source count).zipIdx[turn]? =
        some ((grid.drawCells source count)[turn], turn) := by
      rw [List.getElem?_zipIdx, List.getElem?_eq_getElem within, Option.map_some, Nat.zero_add]
    obtain ⟨one, -, made⟩ := exists_getElem?_of_forall₂ sown.flip drawn
    exact (isSown_of_sent made).1
  · intro sends
    refine exists_forall₂ fun place member => ?_
    obtain ⟨within, same⟩ := List.mem_zipIdx' member
    rw [length_drawCells] at within
    obtain ⟨bytes, sent⟩ := sends place.2 within
    have onGrid : grid.contains place.1 = true := by
      obtain ⟨_, -, listed⟩ := List.mem_map.mp (List.mem_of_getElem same.symm)
      exact listed ▸ Grid.contains_cellAt _
    exact ⟨_, by rw [sendTo_eq_ok (Grid.addressOf_neighborAt onGrid) sent]; rfl⟩

theorem isBatch_of_seed (sown : probe.seed grid source count energy stamp = .ok sent) :
    probe.IsBatch grid (grid.drawCells source count) energy stamp sent := by
  rw [seed_eq_ok_iff] at sown
  have each {turn : Nat} {one : Seeded} (found : sent[turn]? = some one) :
      probe.IsSown grid energy stamp turn one := by
    obtain ⟨place, drawn, made⟩ := exists_getElem?_of_forall₂ sown found
    rw [List.getElem?_zipIdx, Option.map_eq_some_iff] at drawn
    obtain ⟨cell, -, rfl⟩ := drawn
    have own := (isSown_of_sent made).2.2
    rwa [Nat.zero_add] at own
  refine ⟨?_, each, ?_⟩
  · have cells : sent.map (·.coord) = (grid.drawCells source count).zipIdx.map Prod.fst := by
      rw [← List.forall₂_eq_eq_eq, List.forall₂_map_left_iff, List.forall₂_map_right_iff]
      exact sown.flip.imp fun one place made => (isSown_of_sent made).2.1
    rw [cells, List.zipIdx_map_fst]
  · have turns : sent.map (·.id) =
        ((grid.drawCells source count).zipIdx.map Prod.snd).map (seedId · stamp) := by
      rw [List.map_map, ← List.forall₂_eq_eq_eq, List.forall₂_map_left_iff, List.forall₂_map_right_iff]
      exact sown.flip.imp fun one place made => (isSown_of_sent made).2.2.id
    rw [turns, List.zipIdx_map_snd]
    exact List.Nodup.map (fun _ _ => seedId_injective) List.nodup_range'

theorem utf8ByteSize_repr_le {number : Nat} (bound : number < 2 ^ 64) :
    number.repr.utf8ByteSize ≤ 80 := by
  have digits := length_repr_word bound
  have bytes := Text.length_bytes_le number.repr
  rw [Text.length_bytes] at bytes
  omega

theorem utf8ByteSize_seed_le {turn : Nat} (turns : turn < 2 ^ 64) (seconds : stamp < 2 ^ 64) :
    (seedId turn stamp).utf8ByteSize ≤ 166 ∧ (seedContent turn stamp).utf8ByteSize ≤ 191 := by
  have spliced (first second third fourth : String) :
      (first ++ second ++ third ++ fourth).utf8ByteSize = first.utf8ByteSize +
        second.utf8ByteSize + third.utf8ByteSize + fourth.utf8ByteSize := by
    simp only [String.utf8ByteSize_append]
  have id : (seedId turn stamp).utf8ByteSize =
      5 + turn.repr.utf8ByteSize + 1 + stamp.repr.utf8ByteSize :=
    spliced "info_" turn.repr "_" stamp.repr
  have content : (seedContent turn stamp).utf8ByteSize =
      20 + turn.repr.utf8ByteSize + 11 + stamp.repr.utf8ByteSize :=
    spliced "Information package " turn.repr " seeded at " stamp.repr
  have first := utf8ByteSize_repr_le turns
  have second := utf8ByteSize_repr_le seconds
  omega

/-- A probe with a sender id of up to ten thousand bytes can send every item while the link is up.
-/
theorem canSend_of_short (up : probe.link = .up) (short : probe.senderId.utf8ByteSize ≤ 10000)
    {turn : Nat} (turns : turn < 2 ^ 64) (seconds : stamp < 2 ^ 64) :
    probe.CanSend turn stamp energy := by
  obtain ⟨id, content⟩ := utf8ByteSize_seed_le turns seconds
  have fits : (Message.information probe.senderId (seedParcel turn stamp energy)).Fits := by
    apply Message.fits_information
    change 6 * (probe.senderId.utf8ByteSize + (seedId turn stamp).utf8ByteSize +
      (seedContent turn stamp).utf8ByteSize) + 300 ≤ 65507
    omega
  exact ⟨_, up ▸ Link.transmit_up fits⟩

end Probe

/-- A map with some more keys than another one has so many more entries. -/
theorem SortedMap.size_eq_add {Key Value : Type} [Ord Key] [Std.LawfulEqOrd Key] [Std.TransOrd Key]
    {before after : SortedMap Key Value} {fresh : List Key} (distinct : fresh.Nodup)
    (free : ∀ key ∈ fresh, before.get? key = none)
    (held : ∀ key, after.get? key ≠ none ↔ before.get? key ≠ none ∨ key ∈ fresh) :
    after.size = before.size + fresh.length := by
  have mem_keys {map : SortedMap Key Value} {key : Key} : key ∈ map.keys ↔ map.get? key ≠ none := by
    rw [mem_keys_iff, contains, Option.isSome_iff_ne_none]
  have apart : before.keys.Disjoint fresh := fun key old new => mem_keys.mp old (free key new)
  have once : (before.keys ++ fresh).Nodup :=
    List.nodup_append'.mpr ⟨before.nodup_keys, distinct, apart⟩
  have all : after.keys.Nodup := after.nodup_keys
  have same : after.keys.Perm (before.keys ++ fresh) := by
    refine (List.perm_ext_iff_of_nodup all once).mpr fun key => ?_
    rw [List.mem_append, mem_keys, mem_keys]
    exact held key
  have lengths := same.length_eq
  rw [List.length_append, keys, keys, List.length_map, List.length_map] at lengths
  exact lengths

theorem Node.handleAll_eq (node : Node) (arrivals : List (Message × Address)) :
    ∃ alive store, node.handleAll arrivals = { node with alive, store } := by
  induction arrivals generalizing node with
  | nil => exact ⟨node.alive, node.store, rfl⟩
  | cons arrival rest ih =>
    obtain ⟨_, _, handled⟩ := node.handle_eq arrival.1 arrival.2
    obtain ⟨alive, store, others⟩ := ih (node.handle arrival.1 arrival.2).2
    refine ⟨alive, store, others.trans ?_⟩
    rw [handled]

/-- Of a node in service that handles items only the store changes. -/
theorem NodeService.handleAll_items {service : NodeService} {arrivals : List (Message × Address)}
    (items : ∀ arrival ∈ arrivals, arrival.1.kind = .information) :
    service.handleAll arrivals = { service with
      node := { service.node with store := (service.handleAll arrivals).node.store } } := by
  obtain ⟨alive, store, handled⟩ := service.node.handleAll_eq arrivals
  have same : (service.node.handleAll arrivals).alive = _ := (Node.handleAll_items items).1
  rw [handled] at same
  have lasting : alive = service.node.alive := same
  rw [NodeService.handleAll, handled, lasting]

def Services.heldItems (services : Services) : Nat := (services.map (·.node.store.size)).sum

/-- What a batch does to the node of a cell: it takes in the items for its cell, each with one unit
of energy less than it was sent with and one hop, and all else stays as it was. -/
structure NodeService.TakesIn (sent : List Seeded) (stamp : Nat) (energy : Int64) (sender : String)
    (cell : Coord) (before after : NodeService) : Prop where
  rest : after = { before with node := { before.node with store := after.node.store } }
  here {turn : Nat} {one : Seeded} : sent[turn]? = some one → one.coord = cell →
    ∃ item, after.node.store.get? (Probe.seedId turn stamp) = some item ∧
      item.content = Probe.seedContent turn stamp ∧ item.energy.toNat + 1 = energy.toInt ∧
        item.hops = 1 ∧ item.provenance = .peer sender
  elsewhere {turn : Nat} {one : Seeded} : sent[turn]? = some one → one.coord ≠ cell →
    after.node.store.get? (Probe.seedId turn stamp) = none
  others {id : String} : (∀ turn < sent.length, id ≠ Probe.seedId turn stamp) →
    after.node.store.get? id = before.node.store.get? id

/-- What a batch does to a grid in service: every node takes in its part, and none of it is lost. -/
structure Services.TakeIn (sent : List Seeded) (stamp : Nat) (energy : Int64) (sender : String)
    (grid : Grid) (before after : Services) : Prop where
  nodes : List.Forall₂ (fun place => NodeService.TakesIn sent stamp energy sender place.1 place.2)
    (grid.coords.zip before) after
  heldItems : after.heldItems = before.heldItems + sent.length

namespace Probe
variable {probe : Probe} {grid : Grid} {drawn : List Coord} {stamp : Nat} {energy : Int64}
  {sent : List Seeded} {cell : Coord} {services : Services} {service : NodeService}
  {arrivals : List Delivery}

theorem IsBatch.target (batch : probe.IsBatch grid drawn energy stamp sent) :
    ∀ one ∈ sent, grid.addressOf one.coord = .ok one.delivery.target := by
  intro one inside
  obtain ⟨turn, listed⟩ := List.mem_iff_getElem?.mp inside
  exact (batch.each listed).target

/-- What arrives at a cell of a batch are the items that were sent there. -/
theorem IsBatch.mem_arrivalsAt_iff (batch : probe.IsBatch grid drawn energy stamp sent)
    (arrive : ∀ delivery, delivery ∈ arrivals ↔ delivery ∈ sent.map (·.delivery))
    (found : grid.addressOf cell = .ok service.address) {arrival : Message × Address} :
    arrival ∈ arrivalsAt service.address arrivals ↔ ∃ turn one, sent[turn]? = some one ∧
      one.coord = cell ∧
        arrival = (.information probe.senderId (seedParcel turn stamp energy), probe.address) := by
  rw [mem_arrivalsAt_iff_of_sent Seeded.toCellDelivery batch.target arrive found]
  constructor
  · rintro ⟨one, inside, here, brought⟩
    obtain ⟨turn, listed⟩ := List.mem_iff_getElem?.mp inside
    have own := batch.each listed
    obtain ⟨message, source⟩ := arrival
    obtain ⟨read, rfl⟩ := Datagram.arrival?_eq_some_iff.mp brought
    rw [own.reads] at read
    exact ⟨turn, one, listed, here, Prod.ext (Except.ok.inj read).symm own.source⟩
  · rintro ⟨turn, one, listed, here, rfl⟩
    have own := batch.each listed
    have brought := Datagram.arrival?_eq_some_iff.mpr ⟨own.reads, own.source⟩
    exact ⟨one, List.mem_of_getElem? listed, here, brought⟩

/-- What arrives of a batch at a cell are items. -/
theorem IsBatch.kind_of_mem_arrivalsAt (batch : probe.IsBatch grid drawn energy stamp sent)
    (arrive : ∀ delivery, delivery ∈ arrivals ↔ delivery ∈ sent.map (·.delivery))
    (found : grid.addressOf cell = .ok service.address) :
    ∀ arrival ∈ arrivalsAt service.address arrivals, arrival.1.kind = .information := by
  intro arrival member
  obtain ⟨turn, one, -, -, rfl⟩ := (batch.mem_arrivalsAt_iff arrive found).mp member
  rfl

/-- Under an id that is free, a node takes in the item of a batch that was sent to its cell. -/
theorem IsBatch.get?_handleAll (batch : probe.IsBatch grid drawn energy stamp sent)
    (arrive : ∀ delivery, delivery ∈ arrivals ↔ delivery ∈ sent.map (·.delivery))
    (found : grid.addressOf cell = .ok service.address) (alive : service.node.alive = true)
    {id : String} (taken : Option Item)
    (same : ∀ item, (∃ turn one, sent[turn]? = some one ∧ one.coord = cell ∧
      seedId turn stamp = id ∧ (seedParcel turn stamp energy).arrival? probe.senderId = some item) ↔
        taken = some item) :
    (service.handleAll (arrivalsAt service.address arrivals)).node.store.get? id =
      (service.node.store.get? id).or taken := by
  have items := batch.kind_of_mem_arrivalsAt arrive found
  have held : (service.handleAll (arrivalsAt service.address arrivals)).node.store.get? id = _ :=
    (Node.handleAll_items items).2 id
  have first : (arrivalsAt service.address arrivals).findSome? (·.1.arrival? id) = taken := by
    refine findSome?_eq_of_iff fun item => (Iff.trans ?_ (same item))
    constructor
    · rintro ⟨arrival, member, brought⟩
      obtain ⟨turn, one, listed, here, rfl⟩ := (batch.mem_arrivalsAt_iff arrive found).mp member
      obtain ⟨sender, parcel, same, named, taken⟩ := Message.arrival?_eq_some_iff.mp brought
      cases same
      exact ⟨turn, one, listed, here, named, taken⟩
    · rintro ⟨turn, one, listed, here, named, taken⟩
      have member := (batch.mem_arrivalsAt_iff arrive found).mpr ⟨turn, one, listed, here, rfl⟩
      exact ⟨_, member, Message.arrival?_eq_some_iff.mpr ⟨_, _, rfl, named, taken⟩⟩
  rw [held, if_pos alive, first]

/-- The batch as one node sees it. -/
theorem IsBatch.takesIn (batch : probe.IsBatch grid drawn energy stamp sent)
    (charged : 2 ≤ energy.toInt)
    (arrive : ∀ delivery, delivery ∈ arrivals ↔ delivery ∈ sent.map (·.delivery))
    (found : grid.addressOf cell = .ok service.address) (alive : service.node.alive = true)
    (free : ∀ turn, service.node.store.get? (seedId turn stamp) = none) :
    NodeService.TakesIn sent stamp energy probe.senderId cell service
      (service.handleAll (arrivalsAt service.address arrivals)) := by
  constructor
  case rest => exact NodeService.handleAll_items (batch.kind_of_mem_arrivalsAt arrive found)
  case here =>
    intro turn one listed here
    have arrives : ∃ item, (seedParcel turn stamp energy).arrival? probe.senderId = some item :=
      Parcel.exists_arrival probe.senderId charged
    obtain ⟨item, taken⟩ := arrives
    obtain ⟨content, spent, hops, provenance⟩ := Parcel.arrival?_eq_some_iff.mp taken
    refine ⟨item, ?_, content, spent, hops, provenance⟩
    rw [batch.get?_handleAll arrive found alive (some item), free, Option.none_or]
    intro other
    constructor
    · rintro ⟨again, _, -, -, named, same⟩
      obtain rfl := seedId_injective named
      exact taken.symm.trans same
    · intro same
      exact ⟨turn, one, listed, here, rfl, taken.trans same⟩
  case elsewhere =>
    intro turn one listed away
    rw [batch.get?_handleAll arrive found alive none, free, Option.none_or]
    refine fun item => iff_of_false ?_ (Option.some_ne_none item).symm
    rintro ⟨again, other, found, here, named, -⟩
    obtain rfl := seedId_injective named
    exact away (Option.some.inj (listed.symm.trans found) ▸ here)
  case others =>
    intro id apart
    rw [batch.get?_handleAll arrive found alive none, Option.or_none]
    refine fun item => iff_of_false ?_ (Option.some_ne_none item).symm
    rintro ⟨turn, other, listed, -, named, -⟩
    exact apart turn (List.getElem?_eq_some_iff.mp listed).1 named.symm

def idsAt (sent : List Seeded) (cell : Coord) : List String :=
  (sent.filter (·.coord = cell)).map (·.id)

theorem IsBatch.mem_idsAt_iff (batch : probe.IsBatch grid drawn energy stamp sent) {id : String} :
    id ∈ idsAt sent cell ↔
      ∃ turn one, sent[turn]? = some one ∧ one.coord = cell ∧ id = seedId turn stamp := by
  constructor
  · intro member
    obtain ⟨one, inside, rfl⟩ := List.mem_map.mp member
    obtain ⟨inside, here⟩ := List.mem_filter.mp inside
    obtain ⟨turn, listed⟩ := List.mem_iff_getElem?.mp inside
    exact ⟨turn, one, listed, of_decide_eq_true here, (batch.each listed).id⟩
  · rintro ⟨turn, one, listed, here, rfl⟩
    have inside : one ∈ sent.filter (·.coord = cell) :=
      List.mem_filter.mpr ⟨List.mem_of_getElem? listed, decide_eq_true here⟩
    exact List.mem_map.mpr ⟨one, inside, (batch.each listed).id⟩

theorem IsBatch.length_idsAt (batch : probe.IsBatch grid drawn energy stamp sent) (cell : Coord) :
    (idsAt sent cell).length = drawn.count cell := by
  rw [idsAt, List.length_map, ← batch.coords, List.count_eq_countP, List.countP_map,
    List.countP_eq_length_filter]
  rfl

/-- A node that has taken in its part of a batch holds so many more items. -/
theorem IsBatch.size_of_takesIn (batch : probe.IsBatch grid drawn energy stamp sent)
    {before after : NodeService}
    (free : ∀ turn, before.node.store.get? (seedId turn stamp) = none)
    (takes : NodeService.TakesIn sent stamp energy probe.senderId cell before after) :
    after.node.store.size = before.node.store.size + drawn.count cell := by
  rw [← batch.length_idsAt]
  refine SortedMap.size_eq_add ?distinct ?free fun id => ?held
  case distinct => exact batch.distinct.sublist (List.filter_sublist.map _)
  case free =>
    intro id member
    obtain ⟨turn, one, -, -, rfl⟩ := batch.mem_idsAt_iff.mp member
    exact free turn
  case held =>
    -- An id of the batch is new exactly at the cell of its item; any other id is as it was.
    by_cases sown : ∃ turn one, sent[turn]? = some one ∧ id = seedId turn stamp
    · obtain ⟨turn, one, listed, rfl⟩ := sown
      by_cases here : one.coord = cell
      · obtain ⟨item, held, -⟩ := takes.here listed here
        have new := batch.mem_idsAt_iff.mpr ⟨turn, one, listed, here, rfl⟩
        exact iff_of_true (held ▸ Option.some_ne_none item) (.inr new)
      · have absent := takes.elsewhere listed here
        refine iff_of_false (not_not.mpr absent) (not_or.mpr ⟨not_not.mpr (free turn), fun new => ?_⟩)
        obtain ⟨again, other, found, there, same⟩ := batch.mem_idsAt_iff.mp new
        obtain rfl := seedId_injective same
        exact here (Option.some.inj (listed.symm.trans found) ▸ there)
    · rw [takes.others fun turn within same =>
        sown ⟨turn, _, List.getElem?_eq_getElem within, same⟩]
      refine (or_iff_left fun new => sown ?_).symm
      obtain ⟨turn, one, listed, -, same⟩ := batch.mem_idsAt_iff.mp new
      exact ⟨turn, one, listed, same⟩

theorem sum_count_cells {cells chosen : List Coord} (distinct : cells.Nodup)
    (among : ∀ cell ∈ chosen, cell ∈ cells) :
    (cells.map (chosen.count ·)).sum = chosen.length := by
  induction chosen with
  | nil => simp
  | cons head rest ih =>
    obtain ⟨inside, others⟩ := List.forall_mem_cons.mp among
    -- One more item adds one to the sum, at its own cell.
    have once : (cells.map fun cell => if head == cell then 1 else 0).sum = 1 := by
      rw [List.sum_map_eq_nsmul_single head _ fun cell apart _ => if_neg (by simp [apart.symm]),
        List.count_eq_one_of_mem distinct inside]
      simp
    simp only [List.count_cons, List.sum_map_add, once, ih others, List.length_cons]

theorem IsBatch.mem_coords (batch : probe.IsBatch grid drawn energy stamp sent) :
    ∀ cell ∈ drawn, cell ∈ grid.coords := by
  intro cell member
  rw [← batch.coords] at member
  obtain ⟨one, inside, rfl⟩ := List.mem_map.mp member
  exact Grid.mem_coords_iff.mpr (Grid.addressOf_eq_ok_iff.mp (batch.target one inside)).1

/-- A batch is taken in as a whole, in whatever order and however often it arrives. -/
theorem IsBatch.deliverAll (batch : probe.IsBatch grid drawn energy stamp sent)
    (charged : 2 ≤ energy.toInt) (serves : Services.Serves grid services)
    (alive : ∀ service ∈ services, service.node.alive = true)
    (free : ∀ service ∈ services, ∀ turn, service.node.store.get? (seedId turn stamp) = none)
    (arrive : ∀ delivery, delivery ∈ arrivals ↔ delivery ∈ sent.map (·.delivery)) (link : Link) :
    Services.TakeIn sent stamp energy probe.senderId grid services
      (services.deliverAll link arrivals).2 := by
  obtain ⟨lengths, placed⟩ := List.forall₂_iff_zip.mp serves.placed
  let places := grid.coords.zip services
  have cells : places.map Prod.fst = grid.coords := List.map_fst_zip lengths.le
  have nodes : places.map Prod.snd = services := List.map_snd_zip lengths.ge
  have takes {place : Coord × NodeService} (member : place ∈ places) :
      NodeService.TakesIn sent stamp energy probe.senderId place.1 place.2
        (place.2.handleAll (arrivalsAt place.2.address arrivals)) :=
    have inside := (List.of_mem_zip member).2
    batch.takesIn charged arrive (placed member) (alive _ inside) (free _ inside)
  have after : (services.deliverAll link arrivals).2 =
      places.map fun place => place.2.handleAll (arrivalsAt place.2.address arrivals) := by
    rw [serves.deliverAll, ← nodes, List.map_map]
    rfl
  rw [after]
  constructor
  case nodes => exact List.forall₂_map_right_iff.mpr (List.forall₂_same.mpr fun _ => takes)
  case heldItems =>
    have before : (places.map fun place => place.2.node.store.size).sum = services.heldItems := by
      rw [Services.heldItems, ← nodes, List.map_map]
      rfl
    have new : (places.map fun place => drawn.count place.1).sum = sent.length := by
      have counts := sum_count_cells grid.nodup_coords batch.mem_coords
      rw [← cells, List.map_map] at counts
      rw [← List.length_map (·.coord), batch.coords]
      exact counts
    calc Services.heldItems (places.map fun place =>
          place.2.handleAll (arrivalsAt place.2.address arrivals))
      _ = (places.map fun place => place.2.node.store.size + drawn.count place.1).sum := by
        rw [Services.heldItems, List.map_map]
        refine congrArg List.sum (List.map_congr_left fun place member => ?_)
        exact batch.size_of_takesIn (free _ (List.of_mem_zip member).2) (takes member)
      _ = services.heldItems + sent.length := by rw [List.sum_map_add, before, new]

/-- No item of a batch is lost to another one. A batch is sent if the link takes all its items, as
it does while it is up and the sender's id is short. It is one datagram for each cell drawn, to the
cell's address and under an id of its own. In whatever order and however often these arrive, a grid
of living nodes that hold none of the ids takes in all of them, each at its own cell. -/
theorem seed_exact (probe : Probe) (grid : Grid) (source : RandomSource) (count : Nat)
    (energy : Int64) (stamp : Nat) (charged : 2 ≤ energy.toInt) :
    ((∃ sent, probe.seed grid source count energy stamp = .ok sent) ↔
      ∀ turn < count, probe.CanSend turn stamp energy) ∧
    (probe.link = .up → probe.senderId.utf8ByteSize ≤ 10000 → count < 2 ^ 64 → stamp < 2 ^ 64 →
      ∃ sent, probe.seed grid source count energy stamp = .ok sent) ∧
    ∀ sent, probe.seed grid source count energy stamp = .ok sent →
      sent.length = count ∧
        probe.IsBatch grid (grid.drawCells source count) energy stamp sent ∧
          ∀ services link arrivals, Services.Serves grid services →
            (∀ service ∈ services, service.node.alive = true) →
            (∀ service ∈ services, ∀ turn, service.node.store.get? (seedId turn stamp) = none) →
            (∀ delivery, delivery ∈ arrivals ↔ delivery ∈ sent.map (·.delivery)) →
              Services.TakeIn sent stamp energy probe.senderId grid services
                (services.deliverAll link arrivals).2 := by
  refine ⟨exists_seed_iff, fun up short turns seconds => ?_, fun sent sown => ?_⟩
  · exact exists_seed_iff.mpr fun turn within =>
      canSend_of_short up short (within.trans turns) seconds
  · have batch := isBatch_of_seed sown
    have amount : sent.length = count := by
      rw [← List.length_map (·.coord), batch.coords, length_drawCells]
    exact ⟨amount, batch, fun services link arrivals serves alive free arrive =>
      batch.deliverAll charged serves alive free arrive link⟩

/-- Five items go to four cells, the last one to a cell that has one already, and all of them are
held after they have arrived twice each, the last one first. -/
theorem seed_exact_fourCells :
    let probe : Probe := ⟨controllerId, ⟨.loopback, 40000, 0⟩, .up⟩
    let services := (Launcher.fresh .fourCells 250).services
    ∃ sent, probe.seed .fourCells .inOrder 5 2 1700000000 = .ok sent ∧
      sent.map (·.coord) = [⟨0, 0⟩, ⟨1, 0⟩, ⟨0, 1⟩, ⟨1, 1⟩, ⟨0, 0⟩] ∧
        Services.heldItems (services.deliverAll .up
          ((sent ++ sent).map (·.delivery)).reverse).2 = 5 := by
  intro probe services
  obtain ⟨-, sends, sound⟩ :=
    seed_exact probe .fourCells .inOrder 5 2 1700000000 (by decide)
  obtain ⟨sent, sown⟩ := sends rfl (by decide) (by decide) (by decide)
  obtain ⟨amount, batch, takes⟩ := sound sent sown
  have fresh : ∀ service ∈ services, service.node.alive = true ∧ service.node.store = .empty := by
    intro service member
    obtain ⟨cell, -, rfl⟩ := List.mem_map.mp member
    exact ⟨rfl, rfl⟩
  have free : ∀ service ∈ services, ∀ turn,
      service.node.store.get? (seedId turn 1700000000) = none := by
    intro service member turn
    rw [(fresh service member).2]
    rfl
  have taken := takes services .up ((sent ++ sent).map (·.delivery)).reverse
    (Services.serves_fresh .fourCells 250) (fun service member => (fresh service member).1) free
    fun delivery => by simp
  have nothing : services.heldItems = 0 := rfl
  refine ⟨sent, sown, batch.coords, ?_⟩
  rw [taken.heldItems, nothing, amount]

end Probe
end GridDiffusion
