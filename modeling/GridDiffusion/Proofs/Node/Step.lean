import GridDiffusion.Proofs.Node.Item
import GridDiffusion.Proofs.SortedMap
/-! What each operation of a node does to what the node holds, and that none of them changes where
the node stands. -/
namespace GridDiffusion

namespace Store
variable {store : Store} {id content : String} {energy hops : UInt64} {provenance : Provenance}

theorem contains_eq_false_iff : store.contains id = false ↔ store.get? id = none := by
  simp [SortedMap.contains]

theorem contains_of_get? {item : Item} (held : store.get? id = some item) :
    store.contains id = true := by
  rw [SortedMap.contains, held, Option.isSome_some]

theorem offer_of_held (held : store.contains id = true) :
    store.offer id content energy hops provenance = (.alreadyHeld, store) := by
  rw [offer, if_pos held]

/-- An offer under a free id stores the item that its parts make, if they make one. -/
theorem offer_of_free (free : store.contains id = false) :
    store.offer id content energy hops provenance =
      match Item.of? content energy hops provenance with
      | some item => (.stored, store.insert id item)
      | none => (.exhausted, store) := by
  unfold offer Item.of?
  rw [if_neg (by simp [free])]
  split <;> rfl

theorem get?_decay (store : Store) (id : String) :
    store.decay.get? id = (store.get? id).bind Item.decayed? :=
  SortedMap.get?_filterMap store (fun _ item => item.decayed?) id

end Store

namespace Node
variable {node : Node} {id : String}

/-- Two states of one node: who it is and whom it talks to never change. -/
structure SamePlace (before after : Node) : Prop where
  id : after.id = before.id
  coord : after.coord = before.coord
  address : after.address = before.address
  neighbors : after.neighbors = before.neighbors

theorem SamePlace.refl (node : Node) : SamePlace node node := ⟨rfl, rfl, rfl, rfl⟩

theorem SamePlace.trans {first second third : Node} (left : SamePlace first second)
    (right : SamePlace second third) : SamePlace first third :=
  ⟨right.id.trans left.id, right.coord.trans left.coord, right.address.trans left.address,
    right.neighbors.trans left.neighbors⟩

def EmptyIfDead (node : Node) : Prop := node.alive = false → node.store = .empty

theorem receive_of_dead (dead : node.alive = false) (sender : String) (parcel : Parcel) :
    (node.receive sender parcel).2 = node := by
  rw [receive, if_pos (by simp [dead])]

/-- An alive node takes in what arrives under a free id, and otherwise stays as it is. -/
theorem receive_of_alive (alive : node.alive = true) (sender : String) (parcel : Parcel) :
    (node.receive sender parcel).2 =
      match node.store.get? parcel.id, parcel.arrival? sender with
      | none, some item => { node with store := node.store.insert parcel.id item }
      | _, _ => node := by
  rw [receive, if_neg (by simp [alive])]
  cases held : node.store.get? parcel.id with
  | some old =>
    rw [if_pos (Store.contains_of_get? held)]
  | none =>
    have free := Store.contains_eq_false_iff.mpr held
    rw [if_neg (by simp [free]), Parcel.arrival?]
    split
    · rfl
    · rw [Store.offer_of_free free]
      cases Item.of? parcel.content (parcel.energy - 1).toUInt64 (saturatingSucc parcel.hops)
        (.peer sender) <;> rfl

theorem receive_eq (node : Node) (sender : String) (parcel : Parcel) :
    ∃ store, (node.receive sender parcel).2 = { node with store } := by
  rcases Bool.eq_false_or_eq_true node.alive with alive | dead
  · rw [receive_of_alive alive]
    split
    · exact ⟨_, rfl⟩
    · exact ⟨node.store, rfl⟩
  · exact ⟨node.store, receive_of_dead dead sender parcel⟩

theorem get?_receive (alive : node.alive = true) (sender : String) (parcel : Parcel) (id : String) :
    (node.receive sender parcel).2.store.get? id =
      (node.store.get? id).or (if parcel.id = id then parcel.arrival? sender else none) := by
  rw [receive_of_alive alive]
  by_cases same : parcel.id = id
  · subst same
    rw [if_pos rfl]
    cases held : node.store.get? parcel.id with
    | some old => simpa using held
    | none =>
      cases parcel.arrival? sender with
      | none => simpa using held
      | some item => simp [SortedMap.get?_insert]
  · rw [if_neg same, Option.or_none]
    split
    · exact (SortedMap.get?_insert ..).trans (if_neg (Ne.symm same))
    · rfl

theorem handle_of_dead (dead : node.alive = false) (empty : node.EmptyIfDead) (message : Message)
    (source : Address) : (node.handle message source).2 = node := by
  cases message with
  | information sender parcel => exact receive_of_dead dead sender parcel
  | die sender =>
    have store := empty dead
    cases node
    cases dead
    cases store
    rfl
  | ping | pong | heartbeat => rfl

/-- A message changes at most whether the node is alive and what it holds. -/
theorem handle_eq (node : Node) (message : Message) (source : Address) :
    ∃ alive store, (node.handle message source).2 = { node with alive, store } := by
  cases message with
  | information sender parcel =>
    obtain ⟨store, received⟩ := node.receive_eq sender parcel
    exact ⟨node.alive, store, received⟩
  | die sender => exact ⟨false, .empty, rfl⟩
  | ping | pong | heartbeat => exact ⟨node.alive, node.store, rfl⟩

theorem alive_handle (node : Node) {message : Message} (lasting : message.kind ≠ .die)
    (source : Address) : (node.handle message source).2.alive = node.alive := by
  cases message with
  | information sender parcel =>
    obtain ⟨store, received⟩ := node.receive_eq sender parcel
    change (node.receive sender parcel).2.alive = node.alive
    rw [received]
  | die => exact absurd rfl lasting
  | ping | pong | heartbeat => rfl

/-- A message that brings an item under an id has it taken in where that id is free. -/
theorem get?_handle (alive : node.alive = true) {message : Message} (lasting : message.kind ≠ .die)
    (source : Address) (id : String) :
    (node.handle message source).2.store.get? id =
      (node.store.get? id).or (message.arrival? id) := by
  cases message with
  | information sender parcel => exact get?_receive alive sender parcel id
  | die => exact absurd rfl lasting
  | ping | pong | heartbeat => exact Option.or_none.symm

theorem held_of_handle {message : Message} {source : Address} {item : Item}
    (held : (node.handle message source).2.store.get? id = some item) :
    node.store.get? id = some item ∨ message.arrival? id = some item := by
  cases message with
  | information sender parcel =>
    rcases Bool.eq_false_or_eq_true node.alive with alive | dead
    · have found : (node.store.get? id).or ((Message.information sender parcel).arrival? id) =
          some item := (get?_receive alive sender parcel id).symm.trans held
      rcases Option.or_eq_some_iff.mp found with before | ⟨-, brought⟩
      · exact .inl before
      · exact .inr brought
    · have same : (node.handle (.information sender parcel) source).2 = node :=
        receive_of_dead dead sender parcel
      exact .inl (same ▸ held)
  | die => cases held
  | ping | pong | heartbeat => exact .inl held

theorem kind_of_reply {message : Message} {source : Address} {reply : Outgoing}
    (answered : reply ∈ (node.handle message source).1.toList) : reply.message.kind = .pong := by
  cases message with
  | ping sender data =>
    obtain rfl : reply = _ := List.mem_singleton.mp answered
    rfl
  | information | die | pong | heartbeat => cases answered

theorem tick_of_alive (alive : node.alive = true) : node.tick.2 =
    { node with store := node.store.decay, generation := node.generation + 1 } := by
  rw [tick, if_pos alive]

theorem tick_of_dead (dead : node.alive = false) : node.tick = ([], node) := by
  rw [tick, if_neg (by simp [dead])]

theorem get?_tick (empty : node.EmptyIfDead) (id : String) :
    node.tick.2.store.get? id = (node.store.get? id).bind Item.decayed? := by
  rcases Bool.eq_false_or_eq_true node.alive with alive | dead
  · rw [tick_of_alive alive, Store.get?_decay]
  · rw [tick_of_dead dead, empty dead]
    rfl

theorem mem_tick_iff (empty : node.EmptyIfDead) {outgoing : Outgoing} : outgoing ∈ node.tick.1 ↔
    ∃ id item, node.store.get? id = some item ∧ ∃ neighbor ∈ node.neighbors.values,
      outgoing = ⟨neighbor.address, .information node.id (item.parcel id)⟩ := by
  rcases Bool.eq_false_or_eq_true node.alive with alive | dead
  · rw [tick, if_pos alive, spread]
    simp only [List.mem_flatMap, List.mem_map, Prod.exists, SortedMap.get?_eq_some_iff]
    constructor
    · intro sent
      obtain ⟨id, item, held, neighbor, near, rfl⟩ := sent
      exact ⟨id, item, held, neighbor, near, rfl⟩
    · intro sent
      obtain ⟨id, item, held, neighbor, near, rfl⟩ := sent
      exact ⟨id, item, held, neighbor, near, rfl⟩
  · rw [tick_of_dead dead, empty dead]
    simp

theorem samePlace_handle (node : Node) (message : Message) (source : Address) :
    SamePlace node (node.handle message source).2 := by
  obtain ⟨alive, store, handled⟩ := node.handle_eq message source
  rw [handled]
  exact ⟨rfl, rfl, rfl, rfl⟩

theorem samePlace_tick (node : Node) : SamePlace node node.tick.2 := by
  rcases Bool.eq_false_or_eq_true node.alive with alive | dead
  · rw [tick_of_alive alive]
    exact ⟨rfl, rfl, rfl, rfl⟩
  · rw [tick_of_dead dead]
    exact .refl node

theorem samePlace_kill (node : Node) : SamePlace node node.kill := ⟨rfl, rfl, rfl, rfl⟩

theorem samePlace_revive (node : Node) : SamePlace node node.revive.2 := ⟨rfl, rfl, rfl, rfl⟩

/-- A node takes in a new item of its own while it is alive and the id is free. -/
theorem inject_eq_ok_iff {next : Node} {content : String} {energy : UInt64} :
    node.inject id content energy = .ok next ↔
      node.alive = true ∧ node.store.get? id = none ∧
        ∃ item, Item.of? content energy 0 .self = some item ∧
          next = { node with store := node.store.insert id item } := by
  unfold inject
  rcases Bool.eq_false_or_eq_true node.alive with alive | dead
  · rw [if_neg (by simp [alive])]
    cases held : node.store.get? id with
    | some old =>
      simp [Store.offer_of_held (Store.contains_of_get? held)]
    | none =>
      rw [Store.offer_of_free (Store.contains_eq_false_iff.mpr held)]
      cases made : Item.of? content energy 0 .self with
      | none => simp
      | some item => simp [alive, eq_comm]
  · rw [if_pos (by simp [dead])]
    simp [dead]

inductive Refuses (node : Node) (id : String) (energy : UInt64) : NodeError → Prop
  | dead (dead : node.alive = false) : Refuses node id energy .nodeDead
  | held {item : Item} (alive : node.alive = true) (held : node.store.get? id = some item) :
    Refuses node id energy (.alreadyHeld id)
  | spent (alive : node.alive = true) (free : node.store.get? id = none) (spent : energy = 0) :
    Refuses node id energy (.invalidEnergy energy)

theorem inject_eq_error_iff {content : String} {energy : UInt64} {cause : NodeError} :
    node.inject id content energy = .error cause ↔ node.Refuses id energy cause := by
  unfold inject
  constructor
  · intro refused
    split at refused
    next dead =>
      cases refused
      exact .dead (by simpa using dead)
    next living =>
      have alive : node.alive = true := by simpa using living
      cases held : node.store.get? id with
      | some item =>
        rw [Store.offer_of_held (Store.contains_of_get? held)] at refused
        cases refused
        exact .held alive held
      | none =>
        rw [Store.offer_of_free (Store.contains_eq_false_iff.mpr held), Item.of?] at refused
        by_cases spent : energy = 0
        · rw [dif_neg (not_not_intro spent)] at refused
          cases refused
          exact .spent alive held spent
        · rw [dif_pos spent] at refused
          cases refused
  · intro refuses
    cases refuses with
    | dead dead => rw [if_pos (by simp [dead])]
    | held alive held =>
      rw [if_neg (by simp [alive]), Store.offer_of_held (Store.contains_of_get? held)]
    | spent alive free spent =>
      rw [if_neg (by simp [alive]), Store.offer_of_free (Store.contains_eq_false_iff.mpr free),
        Item.of?, dif_neg (not_not_intro spent)]

theorem EmptyIfDead.handle (empty : node.EmptyIfDead) (message : Message) (source : Address) :
    (node.handle message source).2.EmptyIfDead := by
  rcases Bool.eq_false_or_eq_true node.alive with alive | dead
  · intro nowDead
    by_cases lasting : message.kind = .die
    · cases message with
      | die => rfl
      | _ => cases lasting
    · rw [node.alive_handle lasting, alive] at nowDead
      cases nowDead
  · rw [handle_of_dead dead empty]
    exact empty

theorem EmptyIfDead.tick (empty : node.EmptyIfDead) : node.tick.2.EmptyIfDead := by
  rcases Bool.eq_false_or_eq_true node.alive with alive | dead
  · intro nowDead
    rw [tick_of_alive alive] at nowDead
    exact absurd (alive.symm.trans nowDead) nofun
  · rw [tick_of_dead dead]
    exact empty

theorem emptyIfDead_kill (node : Node) : node.kill.EmptyIfDead := fun _ => rfl

theorem emptyIfDead_revive (node : Node) : node.revive.2.EmptyIfDead := nofun

theorem emptyIfDead_inject {next : Node} {content : String} {energy : UInt64}
    (taken : node.inject id content energy = .ok next) : next.EmptyIfDead := by
  obtain ⟨alive, -, item, -, rfl⟩ := inject_eq_ok_iff.mp taken
  exact fun dead => absurd (alive.symm.trans dead) nofun

theorem samePlace_inject {next : Node} {content : String} {energy : UInt64}
    (taken : node.inject id content energy = .ok next) : SamePlace node next := by
  obtain ⟨-, -, item, -, rfl⟩ := inject_eq_ok_iff.mp taken
  exact ⟨rfl, rfl, rfl, rfl⟩

end Node
end GridDiffusion
