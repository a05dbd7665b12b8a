import Mathlib.Algebra.BigOperators.Fin
import Mathlib.Algebra.Order.BigOperators.Group.Finset
import Mathlib.Algebra.Order.BigOperators.Group.List
import Mathlib.Order.Lattice.Nat
import GridDiffusion.Proofs.Swarm.Basic
/-! The end of every epidemic: without new injections and without datagrams that arrive twice, a
swarm has only so many ticks of nodes that hold something and arrivals of items ahead of it, however
its steps interleave. -/
namespace GridDiffusion

/-- How many ticks and arrivals an item of some energy can still set off, where a tick sends it to
at most `fanout` neighbors and each of them may send it on with one unit less. -/
def itemHeat (fanout : Nat) : Nat → Nat
  | 0 => 0
  | energy + 1 => (fanout + 1) * (itemHeat fanout energy + 1)

/-- What an item on its way can set off: its arrival, and what it does with one unit less. -/
def parcelHeat (fanout energy : Nat) : Nat := itemHeat fanout (energy - 1) + 1

def Message.heat (fanout : Nat) : Message → Nat
  | .information _ parcel => parcelHeat fanout parcel.energy.toInt.toNat
  | _ => 0

def Delivery.heat (fanout : Nat) (delivery : Delivery) : Nat :=
  match Message.decode delivery.datagram.bytes with
  | .ok message => message.heat fanout
  | .error _ => 0

def Store.heat (fanout : Nat) (store : Store) : Nat :=
  (store.entries.map fun entry => itemHeat fanout entry.2.energy.toNat).sum

variable {fanout : Nat}

theorem itemHeat_mono {less more : Nat} (below : less ≤ more) :
    itemHeat fanout less ≤ itemHeat fanout more := by
  refine monotone_nat_of_le_succ (fun energy => ?_) below
  have once : itemHeat fanout energy + 1 ≤ (fanout + 1) * (itemHeat fanout energy + 1) :=
    Nat.le_mul_of_pos_left _ (Nat.succ_pos fanout)
  rw [itemHeat]
  omega

theorem parcelHeat_mono {less more : Nat} (below : less ≤ more) :
    parcelHeat fanout less ≤ parcelHeat fanout more :=
  Nat.succ_le_succ (itemHeat_mono (Nat.sub_le_sub_right below 1))

/-- A tick pays for itself, for a datagram to each neighbor, and for what is left of the item. -/
theorem itemHeat_eq (fanout : Nat) {energy : Nat} (positive : 0 < energy) : itemHeat fanout energy =
    fanout * parcelHeat fanout energy + itemHeat fanout (energy - 1) + 1 := by
  obtain ⟨left, rfl⟩ := Nat.exists_eq_succ_of_ne_zero positive.ne'
  rw [itemHeat, parcelHeat, Nat.succ_sub_one, Nat.succ_mul, Nat.add_assoc]

theorem Message.heat_eq_zero {message : Message} (plain : message.kind ≠ .information) :
    message.heat fanout = 0 := by
  cases message with
  | information => exact absurd rfl plain
  | ping | pong | heartbeat | die => rfl

theorem Message.isItem_le_heat (fanout : Nat) (message : Message) :
    (decide (message.kind = .information)).toNat ≤ message.heat fanout := by
  cases message with
  | information => exact Nat.le_add_left 1 _
  | ping | pong | heartbeat | die => exact Nat.le_refl 0

theorem Delivery.heat_le {source target : Address} {message : Message} {bytes : ByteArray}
    (encoded : message.encode = .ok bytes) :
    Delivery.heat fanout ⟨target, source, bytes⟩ ≤ message.heat fanout := by
  rw [Delivery.heat]
  cases decoded : Message.decode bytes with
  | error cause => exact Nat.zero_le _
  | ok arrived =>
    by_cases item : arrived.kind = .information
    · cases arrived with
      | information sender parcel =>
        have sent : message.overWire = .ok (.information sender parcel) := by
          rw [Message.overWire, encoded]
          exact decoded
        rw [Message.of_overWire_information sent]
      | _ => cases item
    · exact (Message.heat_eq_zero item).trans_le (Nat.zero_le _)

theorem heat_carry_le (fanout : Nat) (source : Address) (messages : List Outgoing) :
    ((Link.up.carry source messages).map (Delivery.heat fanout)).sum ≤
      (messages.map fun outgoing => outgoing.message.heat fanout).sum := by
  induction messages with
  | nil => exact Nat.le_refl 0
  | cons outgoing rest ih =>
    rw [Link.carry, List.filterMap_cons, Link.send, Link.transmit, ← Link.carry]
    cases encoded : outgoing.message.encode with
    | error cause => exact ih.trans (Nat.le_add_left ..)
    | ok bytes => exact Nat.add_le_add (Delivery.heat_le encoded) ih

namespace Store

theorem heat_insert_le (fanout : Nat) (store : Store) (id : String) (item : Item) :
    Store.heat fanout (store.insert id item) ≤
      store.heat fanout + itemHeat fanout item.energy.toNat := by
  change ((SortedMap.insertEntry id item store.entries).map _).sum ≤ _
  rw [heat]
  induction store.entries with
  | nil => simp [SortedMap.insertEntry]
  | cons head rest ih =>
    unfold SortedMap.insertEntry
    split <;> simp only [List.map_cons, List.sum_cons] at ih ⊢ <;> omega

/-- Decay takes one unit of energy from every item; what had one unit has no heat left. -/
theorem heat_decay (store : Store) : store.decay.heat fanout =
    (store.entries.map fun entry => itemHeat fanout (entry.2.energy.toNat - 1)).sum := by
  simp only [heat, decay, SortedMap.filterMap]
  induction store.entries with
  | nil => rfl
  | cons entry rest ih =>
    cases decayed : entry.2.decayed? with
    | none =>
      have last := Item.decayed?_eq_none_iff.mp decayed
      simp [decayed, ih, last, itemHeat]
    | some next =>
      obtain ⟨-, energy, -, -⟩ := Item.decayed?_eq_some_iff.mp decayed
      simp [decayed, ih, ← energy]

end Store

namespace Node
variable {node : Node}

/-- Whatever a message does to a node is paid for by the message. -/
theorem heat_handle (fanout : Nat) (node : Node) (message : Message) (source : Address) :
    (node.handle message source).2.store.heat fanout +
        (decide (message.kind = .information)).toNat ≤
      node.store.heat fanout + message.heat fanout := by
  have arriving := message.isItem_le_heat fanout
  cases message with
  | information sender parcel =>
    change (node.receive sender parcel).2.store.heat fanout + 1 ≤ _
    rcases Bool.eq_false_or_eq_true node.alive with alive | dead
    · rw [receive_of_alive alive]
      split
      next item free arrived =>
        obtain ⟨-, energy, -, -⟩ := Parcel.arrival?_eq_some_iff.mp arrived
        have left : parcel.energy.toInt.toNat - 1 = item.energy.toNat := by omega
        have taken := Store.heat_insert_le fanout node.store parcel.id item
        have paid : (Message.information sender parcel).heat fanout =
            itemHeat fanout item.energy.toNat + 1 := by rw [Message.heat, parcelHeat, left]
        rw [paid]
        exact Nat.succ_le_succ taken
      · exact Nat.add_le_add_left arriving _
    · rw [receive_of_dead dead]
      exact Nat.add_le_add_left arriving _
  | die sender => exact Nat.zero_le _
  | ping | pong | heartbeat => exact Nat.le_refl _

theorem heat_reply (fanout : Nat) (node : Node) (message : Message) (source : Address) :
    ((node.handle message source).1.toList.map fun reply => reply.message.heat fanout).sum = 0 := by
  apply List.sum_eq_zero
  intro amount member
  obtain ⟨reply, answered, rfl⟩ := List.mem_map.mp member
  refine Message.heat_eq_zero fun item => ?_
  rw [kind_of_reply answered] at item
  cases item

/-- What a tick sends of one item is as hot as at most `fanout` parcels of its energy. -/
theorem heat_spreadMessage_le (few : node.neighbors.size ≤ fanout) (id : String) (item : Item) :
    (node.neighbors.values.map fun _ => (node.spreadMessage id item).heat fanout).sum ≤
      fanout * parcelHeat fanout item.energy.toNat := by
  have shown : (wireEnergy item.energy).toInt.toNat ≤ item.energy.toNat := by
    rw [toInt_wireEnergy]
    omega
  have each : (node.spreadMessage id item).heat fanout ≤ parcelHeat fanout item.energy.toNat :=
    parcelHeat_mono shown
  rw [List.map_const', List.sum_replicate, smul_eq_mul, SortedMap.values, List.length_map]
  exact Nat.mul_le_mul few each

/-- A tick pays for all that it sends, and for itself where the node holds anything. -/
theorem heat_tick (empty : node.EmptyIfDead) (few : node.neighbors.size ≤ fanout) :
    (node.tick.1.map fun outgoing => outgoing.message.heat fanout).sum +
        node.tick.2.store.heat fanout + (!node.store.isEmpty).toNat ≤ node.store.heat fanout := by
  rcases Bool.eq_false_or_eq_true node.alive with alive | dead
  · have counted : (!node.store.isEmpty).toNat ≤ node.store.entries.length := by
      rw [SortedMap.isEmpty]
      cases node.store.entries <;> simp
    refine (Nat.add_le_add_left counted _).trans ?_
    rw [tick_of_alive alive, tick, if_pos alive]
    simp only [Store.heat_decay]
    simp only [spread, Store.heat]
    -- Every item pays for its own datagrams, for what is left of it, and one for the tick.
    induction node.store.entries with
    | nil => exact Nat.le_refl 0
    | cons entry rest ih =>
      have sent := heat_spreadMessage_le few entry.1 entry.2
      have whole := itemHeat_eq fanout entry.2.energy_pos
      simp only [List.flatMap_cons, List.map_append, List.map_map, List.sum_append, List.map_cons,
        List.sum_cons, List.length_cons, Function.comp_def] at ih sent ⊢
      omega
  · rw [tick_of_dead dead, empty dead]
    exact Nat.le_refl 0

end Node

def Delivery.carriesItem (delivery : Delivery) : Bool :=
  match Message.decode delivery.datagram.bytes with
  | .ok message => message.kind = .information
  | .error _ => false

/-- Steps that bring in nothing new: no item is injected and no datagram arrives twice. -/
def SwarmStep.IsClosed {grid : Grid} : SwarmStep grid → Prop
  | .inject .. => False
  | .deliver _ keep => keep = false
  | _ => True

namespace Swarm
variable {grid : Grid} {swarm : Swarm grid}

/-- Whether a step keeps items circulating: a node that holds something ticks, or an item arrives.
-/
def isActive (swarm : Swarm grid) : SwarmStep grid → Bool
  | .tick place => !(swarm.nodes place).store.isEmpty
  | .deliver index _ => swarm.bag[index]?.any Delivery.carriesItem
  | _ => false

def activity (swarm : Swarm grid) : List (SwarmStep grid) → Nat
  | [] => 0
  | step :: rest => (swarm.isActive step).toNat + (swarm.step step).activity rest

/-- What everything held and everything on its way can still set off. -/
def heat (fanout : Nat) (swarm : Swarm grid) : Nat :=
  ∑ place, (swarm.nodes place).store.heat fanout + (swarm.bag.map (Delivery.heat fanout)).sum

/-- The greatest number of neighbors that a node of the swarm has. -/
def maxNeighbors (swarm : Swarm grid) : Nat :=
  Finset.univ.sup fun place => (swarm.nodes place).neighbors.size

/-- What a swarm can still set off, by its own neighborhoods. -/
def potential (swarm : Swarm grid) : Nat := swarm.heat swarm.maxNeighbors

/-- A swarm whose nodes have at most so many neighbors, and whose dead nodes hold nothing. -/
structure IsConfined (fanout : Nat) (swarm : Swarm grid) : Prop where
  few (place : Fin grid.cellCount) : (swarm.nodes place).neighbors.size ≤ fanout
  empty (place : Fin grid.cellCount) : (swarm.nodes place).EmptyIfDead

theorem IsConfined.step (confined : swarm.IsConfined fanout) (step : SwarmStep grid) :
    (swarm.step step).IsConfined fanout where
  few place := by
    rw [(nodeChange_step swarm step place).samePlace.neighbors]
    exact confined.few place
  empty place := (nodeChange_step swarm step place).emptyIfDead (confined.empty place)

theorem heat_setNode (fanout : Nat) (swarm : Swarm grid) (place : Fin grid.cellCount) (node : Node) :
    (swarm.setNode place node).heat fanout + (swarm.nodes place).store.heat fanout =
      swarm.heat fanout + node.store.heat fanout := by
  have here : (swarm.setNode place node).nodes place = node := if_pos rfl
  have others : ∑ other ∈ Finset.univ.erase place,
        ((swarm.setNode place node).nodes other).store.heat fanout =
      ∑ other ∈ Finset.univ.erase place, (swarm.nodes other).store.heat fanout := by
    refine Finset.sum_congr rfl fun other apart => ?_
    rw [node_setNode, if_neg (Finset.ne_of_mem_erase apart).symm]
  have bag : (swarm.setNode place node).bag = swarm.bag := rfl
  simp only [heat, bag, ← Finset.add_sum_erase _ _ (Finset.mem_univ place), here, others]
  omega

theorem heat_put_le (fanout : Nat) (swarm : Swarm grid) (source : Address)
    (messages : List Outgoing) :
    (swarm.put source messages).heat fanout ≤
      swarm.heat fanout + (messages.map fun outgoing => outgoing.message.heat fanout).sum := by
  have carried := heat_carry_le fanout source messages
  simp only [heat, put, List.map_append, List.sum_append]
  omega

theorem heat_receive (fanout : Nat) (swarm : Swarm grid) (delivery : Delivery) :
    (swarm.receive delivery).heat fanout + delivery.carriesItem.toNat ≤
      swarm.heat fanout + delivery.heat fanout := by
  rw [receive, Delivery.carriesItem, Delivery.heat]
  cases Message.decode delivery.datagram.bytes with
  | error cause =>
    cases swarm.listener? delivery.target <;> exact Nat.le_refl _
  | ok message =>
    cases swarm.listener? delivery.target with
    | none => exact Nat.add_le_add_left (message.isItem_le_heat fanout) _
    | some place =>
      have handled := Node.heat_handle fanout (swarm.nodes place) message
        delivery.datagram.source
      have answered := Node.heat_reply fanout (swarm.nodes place) message
        delivery.datagram.source
      have replaced := heat_setNode fanout swarm place
        ((swarm.nodes place).handle message delivery.datagram.source).2
      have sent := heat_put_le fanout (swarm.setNode place
        ((swarm.nodes place).handle message delivery.datagram.source).2) delivery.target
        ((swarm.nodes place).handle message delivery.datagram.source).1.toList
      dsimp only
      omega

theorem heat_eraseIdx (fanout : Nat) {index : Nat} {delivery : Delivery}
    (found : swarm.bag[index]? = some delivery) :
    ({ swarm with bag := swarm.bag.eraseIdx index } : Swarm grid).heat fanout +
      delivery.heat fanout = swarm.heat fanout := by
  obtain ⟨inside, rfl⟩ := List.getElem?_eq_some_iff.mp found
  have whole := ((List.getElem_cons_eraseIdx_perm inside).map (Delivery.heat fanout)).sum_eq
  rw [List.map_cons, List.sum_cons] at whole
  simp only [heat]
  omega

/-- A step of a confined swarm takes from its heat what it adds to the activity. -/
theorem IsConfined.heat_step (confined : swarm.IsConfined fanout) {step : SwarmStep grid}
    (closed : step.IsClosed) :
    (swarm.step step).heat fanout + (swarm.isActive step).toNat ≤ swarm.heat fanout := by
  cases step with
  | tick place =>
    have ticked := Node.heat_tick (confined.empty place) (confined.few place)
    have replaced := heat_setNode fanout swarm place (swarm.nodes place).tick.2
    have sent := heat_put_le fanout (swarm.setNode place (swarm.nodes place).tick.2)
      (swarm.nodes place).address (swarm.nodes place).tick.1
    simp only [Swarm.step, isActive]
    omega
  | deliver index keep =>
    cases closed
    rw [Swarm.step, isActive]
    cases found : swarm.bag[index]? with
    | none => exact Nat.le_refl _
    | some delivery =>
      have taken := heat_eraseIdx fanout found
      have received := heat_receive fanout
        { swarm with bag := swarm.bag.eraseIdx index } delivery
      rw [taken] at received
      exact received
  | lose index =>
    cases found : swarm.bag[index]? with
    | none =>
      have same : swarm.bag.eraseIdx index = swarm.bag :=
        List.eraseIdx_of_length_le (List.getElem?_eq_none_iff.mp found)
      rw [Swarm.step, same]
      exact Nat.le_refl _
    | some delivery => exact Nat.le_of_add_right_le (heat_eraseIdx fanout found).le
  | send source target message plain =>
    have sent := heat_put_le fanout swarm source [⟨target, message⟩]
    simp only [List.map_cons, List.map_nil, List.sum_cons, List.sum_nil,
      Message.heat_eq_zero plain] at sent
    exact sent
  | kill place =>
    have replaced := heat_setNode fanout swarm place (swarm.nodes place).kill
    have cleared : (swarm.nodes place).kill.store.heat fanout = 0 := rfl
    exact Nat.le_of_add_right_le (replaced.trans (by rw [cleared]; rfl)).le
  | revive place =>
    have replaced := heat_setNode fanout swarm place (swarm.nodes place).revive.2
    exact (Nat.add_right_cancel replaced).le
  | inject => cases closed

theorem IsConfined.activity_le (confined : swarm.IsConfined fanout) {steps : List (SwarmStep grid)}
    (closed : ∀ step ∈ steps, step.IsClosed) : swarm.activity steps ≤ swarm.heat fanout := by
  induction steps generalizing swarm with
  | nil => exact Nat.zero_le _
  | cons step rest ih =>
    have first := confined.heat_step (closed step List.mem_cons_self)
    have later := ih (confined.step step) fun other member => closed other (.tail _ member)
    rw [activity]
    omega

/-- In a schedule without end the heat falls to a least value, and from then on nothing circulates.
-/
theorem IsConfined.exists_isActive_eq_false (confined : swarm.IsConfined fanout)
    {schedule : Nat → SwarmStep grid} (closed : ∀ moment, (schedule moment).IsClosed) :
    ∃ last, ∀ moment ≥ last,
      (swarm.run ((List.range moment).map schedule)).isActive (schedule moment) = false := by
  let state (moment : Nat) : Swarm grid := swarm.run ((List.range moment).map schedule)
  have next (moment : Nat) : state (moment + 1) = (state moment).step (schedule moment) := by
    simp only [state, List.range_succ, List.map_append, run_append]
    rfl
  have kept (moment : Nat) : (state moment).IsConfined fanout := by
    induction moment with
    | zero => exact confined
    | succ moment ih => exact next moment ▸ ih.step (schedule moment)
  have cooler (moment : Nat) : (state (moment + 1)).heat fanout +
      ((state moment).isActive (schedule moment)).toNat ≤ (state moment).heat fanout :=
    next moment ▸ (kept moment).heat_step (closed moment)
  have falling : Antitone fun moment => (state moment).heat fanout :=
    antitone_nat_of_succ_le fun moment => (Nat.le_add_right ..).trans (cooler moment)
  refine ⟨Function.argmin fun moment => (state moment).heat fanout, fun moment after => ?_⟩
  have least := Function.argmin_le (fun moment => (state moment).heat fanout) (moment + 1)
  have below := falling after
  have here := cooler moment
  change (state moment).isActive (schedule moment) = false
  cases active : (state moment).isActive (schedule moment) with
  | false => rfl
  | true =>
    rw [active] at here
    simp only [Bool.toNat_true] at here
    dsimp only at least below
    omega

/-- A swarm without new items dies out, whatever its nodes hold and whatever is on its way: however
nodes tick, fail and come back and datagrams arrive once or get lost, the ticks of nodes that hold
something and the arrivals of items are no more than the swarm's potential at the start, and in a
schedule without end they stop. -/
theorem activity_le_potential {start : Swarm grid}
    (empty : ∀ place, (start.nodes place).EmptyIfDead) :
    (∀ steps : List (SwarmStep grid), (∀ step ∈ steps, step.IsClosed) →
      start.activity steps ≤ start.potential) ∧
    ∀ schedule : Nat → SwarmStep grid, (∀ moment, (schedule moment).IsClosed) →
      ∃ last, ∀ moment ≥ last,
        (start.run ((List.range moment).map schedule)).isActive (schedule moment) = false := by
  have confined : start.IsConfined start.maxNeighbors := by
    let size (place : Fin grid.cellCount) : Nat := (start.nodes place).neighbors.size
    exact ⟨fun place => Finset.le_sup (f := size) (Finset.mem_univ place), empty⟩
  exact ⟨fun steps closed => confined.activity_le closed,
    fun schedule closed => confined.exists_isActive_eq_false closed⟩

/-- Four nodes of which one holds an item with two units of energy. -/
def oneSpark : Swarm .fourCells where
  nodes place := { Node.fresh .fourCells (Grid.fourCells.cellAt place) with
    store := if place = ⟨0, by decide⟩ then
        SortedMap.empty.insert "x" ⟨"", 2, 0, .self, by decide⟩
      else .empty }
  bag := []

/-- The item lasts for two ticks of its node, of the twenty steps that it could set off. -/
theorem activity_le_potential_oneSpark :
    let steps : List (SwarmStep .fourCells) := List.replicate 3 (.tick ⟨0, by decide⟩)
    (∀ place, (oneSpark.nodes place).EmptyIfDead) ∧ (∀ step ∈ steps, step.IsClosed) ∧
      oneSpark.activity steps = 2 ∧ oneSpark.potential = 20 ∧
      oneSpark.activity steps ≤ oneSpark.potential := by
  have empty (place : Fin Grid.fourCells.cellCount) : (oneSpark.nodes place).EmptyIfDead := nofun
  have closed : ∀ step ∈ List.replicate 3 (.tick ⟨0, by decide⟩ : SwarmStep .fourCells),
      step.IsClosed := by
    intro step member
    obtain rfl := List.eq_of_mem_replicate member
    trivial
  exact ⟨empty, closed, by decide +kernel, by decide +kernel,
    (activity_le_potential empty).1 _ closed⟩

end Swarm
end GridDiffusion
