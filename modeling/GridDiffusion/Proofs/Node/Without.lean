import GridDiffusion.Proofs.Node.Step
/-! A node as it looks where some ids are hidden: every operation treats the items that are left as
if the hidden ones had never been there. -/
namespace GridDiffusion

def Message.itemId? : Message → Option String
  | .information _ parcel => some parcel.id
  | _ => none

namespace Store
variable {store : Store} {hidden : String → Bool} {id : String} {item : Item}

def without (store : Store) (hidden : String → Bool) : Store :=
  store.filterMap fun id item => if hidden id then none else some item

theorem get?_without (store : Store) (hidden : String → Bool) (id : String) :
    (store.without hidden).get? id = if hidden id then none else store.get? id := by
  rw [without, SortedMap.get?_filterMap]
  cases store.get? id <;> cases hidden id <;> rfl

theorem get?_without_of_shown (shown : hidden id = false) :
    (store.without hidden).get? id = store.get? id := by
  rw [get?_without, shown]
  rfl

theorem entries_without (store : Store) (hidden : String → Bool) :
    (store.without hidden).entries = store.entries.filter fun entry => !hidden entry.1 := by
  have kept (entry : String × Item) :
      ((if hidden entry.1 then none else some entry.2).map (entry.1, ·) : Option (String × Item)) =
        if !hidden entry.1 then some entry else none := by
    cases hidden entry.1 <;> rfl
  simp only [without, SortedMap.filterMap, kept]
  rw [← List.filterMap_eq_filter]
  rfl

theorem without_decay (store : Store) (hidden : String → Bool) :
    store.decay.without hidden = (store.without hidden).decay := by
  apply SortedMap.ext_get?
  intro id
  rw [get?_without, get?_decay, get?_decay, get?_without]
  cases hidden id <;> rfl

theorem without_insert (shown : hidden id = false) (store : Store) (item : Item) :
    Store.without (store.insert id item) hidden = (store.without hidden).insert id item := by
  apply SortedMap.ext_get?
  intro other
  rw [get?_without, SortedMap.get?_insert, SortedMap.get?_insert, get?_without]
  split
  next veiled =>
    rw [if_neg]
    rintro rfl
    rw [shown] at veiled
    cases veiled
  · rfl

theorem without_insert_of_hidden (veiled : hidden id = true) (store : Store) (item : Item) :
    Store.without (store.insert id item) hidden = store.without hidden := by
  apply SortedMap.ext_get?
  intro other
  rw [get?_without, SortedMap.get?_insert, get?_without]
  split
  · rfl
  next shown =>
    rw [if_neg]
    rintro rfl
    exact shown veiled

end Store

namespace Node
variable {node : Node} {hidden : String → Bool}

def without (node : Node) (hidden : String → Bool) : Node :=
  { node with store := node.store.without hidden }

theorem without_receive {parcel : Parcel} (shown : hidden parcel.id = false) (sender : String) :
    (node.receive sender parcel).2.without hidden =
      ((node.without hidden).receive sender parcel).2 := by
  rcases Bool.eq_false_or_eq_true node.alive with alive | dead
  · have same : (node.without hidden).store.get? parcel.id = node.store.get? parcel.id :=
      Store.get?_without_of_shown shown
    have stillAlive : (node.without hidden).alive = true := alive
    rw [receive_of_alive alive, receive_of_alive stillAlive, same]
    split
    · rw [without, Store.without_insert shown]
      rfl
    · rfl
  · have stillDead : (node.without hidden).alive = false := dead
    rw [receive_of_dead dead, receive_of_dead stillDead]

theorem without_receive_of_hidden {parcel : Parcel} (veiled : hidden parcel.id = true)
    (sender : String) : (node.receive sender parcel).2.without hidden = node.without hidden := by
  rcases Bool.eq_false_or_eq_true node.alive with alive | dead
  · rw [receive_of_alive alive]
    split
    · rw [without, Store.without_insert_of_hidden veiled]
      rfl
    · rfl
  · rw [receive_of_dead dead]

/-- A message about anything else is handled as if there were no hidden items. -/
theorem without_handle {message : Message} (shown : message.itemId?.any hidden = false)
    (source : Address) :
    (node.handle message source).2.without hidden =
      ((node.without hidden).handle message source).2 := by
  cases message with
  | information sender parcel => exact without_receive shown sender
  | ping | pong | heartbeat | die => rfl

theorem without_handle_of_hidden {message : Message} (veiled : message.itemId?.any hidden = true)
    (source : Address) :
    (node.handle message source).2.without hidden = node.without hidden := by
  cases message with
  | information sender parcel => exact without_receive_of_hidden veiled sender
  | ping | pong | heartbeat | die => cases veiled

theorem without_tick (node : Node) (hidden : String → Bool) :
    node.tick.2.without hidden = (node.without hidden).tick.2 := by
  rcases Bool.eq_false_or_eq_true node.alive with alive | dead
  · have stillAlive : (node.without hidden).alive = true := alive
    rw [tick_of_alive alive, tick_of_alive stillAlive, without, Store.without_decay]
    rfl
  · have stillDead : (node.without hidden).alive = false := dead
    rw [tick_of_dead dead, tick_of_dead stillDead]

/-- What a tick sends, less what it sends of hidden items, is what it sends without them. -/
theorem filter_tick (node : Node) (hidden : String → Bool) :
    node.tick.1.filter (fun outgoing => !outgoing.message.itemId?.any hidden) =
      (node.without hidden).tick.1 := by
  have each (entries : List (String × Item)) :
      (entries.flatMap fun entry => node.neighbors.values.map fun neighbor =>
          (⟨neighbor.address, node.spreadMessage entry.1 entry.2⟩ : Outgoing)).filter
            (fun outgoing => !outgoing.message.itemId?.any hidden) =
        (entries.filter fun entry => !hidden entry.1).flatMap fun entry =>
          node.neighbors.values.map fun neighbor =>
            (⟨neighbor.address, node.spreadMessage entry.1 entry.2⟩ : Outgoing) := by
    induction entries with
    | nil => rfl
    | cons entry rest ih =>
      rw [List.flatMap_cons, List.filter_append, ih, List.filter_cons, List.filter_map]
      -- All that is sent of one item carries the same id.
      cases veiled : hidden entry.1 <;>
        simp [Function.comp_def, spreadMessage, Message.itemId?, veiled]
  rcases Bool.eq_false_or_eq_true node.alive with alive | dead
  · have entries : (node.without hidden).store.entries =
        node.store.entries.filter fun entry => !hidden entry.1 := Store.entries_without ..
    have alike : (node.without hidden).alive = node.alive := rfl
    rw [tick, if_pos alive, tick, if_pos (alike.trans alive), spread, spread, entries]
    exact each node.store.entries
  · have stillDead : (node.without hidden).alive = false := dead
    rw [tick_of_dead dead, tick_of_dead stillDead]
    rfl

theorem without_inject {id : String} (shown : hidden id = false) (content : String)
    (energy : UInt64) : (node.without hidden).inject id content energy =
      (node.inject id content energy).map (·.without hidden) := by
  have same : (node.without hidden).store.contains id = node.store.contains id :=
    congrArg Option.isSome (Store.get?_without_of_shown shown)
  have alike : (node.without hidden).alive = node.alive := rfl
  rw [inject, inject, alike]
  rcases Bool.eq_false_or_eq_true node.alive with alive | dead
  · rw [if_neg (by simp [alive]), if_neg (by simp [alive])]
    cases held : node.store.contains id with
    | true =>
      rw [Store.offer_of_held held, Store.offer_of_held (same.trans held)]
      rfl
    | false =>
      rw [Store.offer_of_free held, Store.offer_of_free (same.trans held)]
      cases Item.of? content energy 0 .self with
      | none => rfl
      | some item =>
        have put := Store.without_insert shown node.store item
        simp only [Except.map, without, put]
  · rw [if_pos (by simp [dead]), if_pos (by simp [dead])]
    rfl

theorem without_inject_of_hidden {id : String} (veiled : hidden id = true) {content : String}
    {energy : UInt64} {next : Node} (taken : node.inject id content energy = .ok next) :
    next.without hidden = node.without hidden := by
  obtain ⟨-, -, item, -, rfl⟩ := inject_eq_ok_iff.mp taken
  rw [without, Store.without_insert_of_hidden veiled]
  rfl

theorem without_kill (node : Node) (hidden : String → Bool) :
    node.kill.without hidden = (node.without hidden).kill := rfl

theorem without_revive (node : Node) (hidden : String → Bool) :
    node.revive.2.without hidden = (node.without hidden).revive.2 := rfl

end Node
end GridDiffusion
