import Mathlib.Data.List.Induction
import GridDiffusion.Proofs.Node.Cell
/-! A node as the outcome of its log: whether it is alive, how often it has ticked and what it holds
can be read off the events since it was started. -/
namespace GridDiffusion

inductive NodeEvent
  | handle (message : Message) (source : Address)
  | receive (sender : String) (parcel : Parcel)
  | tick
  | inject (id content : String) (energy : UInt64)
  | kill
  | revive

namespace NodeEvent

/-- A kill, or a message that commands one. -/
def fails : NodeEvent → Bool
  | .kill | .handle (.die _) _ => true
  | _ => false

def isTick : NodeEvent → Bool
  | .tick => true
  | _ => false

/-- What an event offers under an id: an injection of at least one unit of energy as it is, or an
item that arrives with at least two, of which it has spent one on its way and made one hop more. -/
inductive Offers (id : String) : NodeEvent → String → Nat → Nat → Provenance → Prop
  | inject {content : String} {energy : UInt64} (charged : 1 ≤ energy.toNat) :
    Offers id (.inject id content energy) content energy.toNat 0 .self
  | receive {sender : String} {parcel : Parcel} (named : parcel.id = id)
    (charged : 2 ≤ parcel.energy.toInt) :
    Offers id (.receive sender parcel) parcel.content (parcel.energy.toInt.toNat - 1)
      (min (parcel.hops.toNat + 1) (2 ^ 64 - 1)) (.peer sender)
  | handle {sender : String} {parcel : Parcel} {source : Address} (named : parcel.id = id)
    (charged : 2 ≤ parcel.energy.toInt) :
    Offers id (.handle (.information sender parcel) source) parcel.content
      (parcel.energy.toInt.toNat - 1) (min (parcel.hops.toNat + 1) (2 ^ 64 - 1)) (.peer sender)

theorem fails_handle {message : Message} (lasting : message.kind ≠ .die) (source : Address) :
    fails (.handle message source) = false := by
  cases message with
  | die => exact absurd rfl lasting
  | ping | pong | information | heartbeat => rfl

/-- The item that an event offers under an id, if it offers one. -/
def offer? (id : String) : NodeEvent → Option Item
  | .handle message _ => message.arrival? id
  | .receive sender parcel => (Message.information sender parcel).arrival? id
  | .inject other content energy => if other = id then Item.of? content energy 0 .self else none
  | _ => none

end NodeEvent

/-- What a parcel brings, in whole numbers. -/
theorem Parcel.exists_arrival_iff {parcel : Parcel} {sender content : String} {energy hops : Nat}
    {provenance : Provenance} :
    (∃ item, parcel.arrival? sender = some item ∧ item.content = content ∧
        item.energy.toNat = energy ∧ item.hops.toNat = hops ∧ item.provenance = provenance) ↔
      2 ≤ parcel.energy.toInt ∧ content = parcel.content ∧
        energy = parcel.energy.toInt.toNat - 1 ∧
          hops = min (parcel.hops.toNat + 1) (2 ^ 64 - 1) ∧ provenance = .peer sender := by
  constructor
  · intro arrived
    obtain ⟨item, taken, rfl, rfl, rfl, rfl⟩ := arrived
    obtain ⟨content, energy, hops, provenance⟩ := Parcel.arrival?_eq_some_iff.mp taken
    have positive := item.energy_pos
    exact ⟨by omega, content, by omega, hops ▸ toNat_saturatingSucc parcel.hops, provenance⟩
  · intro parts
    obtain ⟨charged, rfl, rfl, rfl, rfl⟩ := parts
    obtain ⟨item, taken⟩ := Parcel.exists_arrival sender (by omega : 1 < parcel.energy.toInt)
    obtain ⟨content, energy, hops, provenance⟩ := Parcel.arrival?_eq_some_iff.mp taken
    exact ⟨item, taken, content, by omega, hops ▸ toNat_saturatingSucc parcel.hops, provenance⟩

/-- What is left of an item after a decay, in whole numbers. -/
theorem Item.exists_decayed_iff {item : Item} {content : String} {energy hops : Nat}
    {provenance : Provenance} :
    (∃ next, item.decayed? = some next ∧ next.content = content ∧ next.energy.toNat = energy ∧
        next.hops.toNat = hops ∧ next.provenance = provenance) ↔
      1 ≤ energy ∧ item.content = content ∧ item.energy.toNat = energy + 1 ∧
        item.hops.toNat = hops ∧ item.provenance = provenance := by
  constructor
  · intro left
    obtain ⟨next, decayed, rfl, rfl, rfl, rfl⟩ := left
    obtain ⟨content, energy, hops, provenance⟩ := Item.decayed?_eq_some_iff.mp decayed
    exact ⟨next.energy_pos, content.symm, energy.symm, by rw [hops], provenance.symm⟩
  · intro parts
    obtain ⟨positive, rfl, amount, rfl, rfl⟩ := parts
    cases decayed : item.decayed? with
    | none =>
      have last := Item.decayed?_eq_none_iff.mp decayed
      omega
    | some next =>
      obtain ⟨content, energy, hops, provenance⟩ := Item.decayed?_eq_some_iff.mp decayed
      exact ⟨next, rfl, content, by omega, by rw [hops], provenance⟩

namespace NodeEvent
variable {id content : String} {energy hops : Nat} {provenance : Provenance} {event : NodeEvent}

theorem Offers.fails_eq_false (offers : event.Offers id content energy hops provenance) :
    event.fails = false ∧ 1 ≤ energy := by
  cases offers with
  | inject charged => exact ⟨rfl, charged⟩
  | receive named charged | handle named charged => exact ⟨rfl, by omega⟩

theorem exists_offer_iff : (∃ item, event.offer? id = some item ∧ item.content = content ∧
      item.energy.toNat = energy ∧ item.hops.toNat = hops ∧ item.provenance = provenance) ↔
    event.Offers id content energy hops provenance := by
  constructor
  · intro offered
    obtain ⟨item, made, parts⟩ := offered
    cases event with
    | handle message source =>
      obtain ⟨sender, parcel, rfl, named, taken⟩ := Message.arrival?_eq_some_iff.mp made
      obtain ⟨charged, rfl, rfl, rfl, rfl⟩ := Parcel.exists_arrival_iff.mp ⟨item, taken, parts⟩
      exact .handle named charged
    | receive sender parcel =>
      obtain ⟨named, taken⟩ := Option.ite_none_right_eq_some.mp made
      obtain ⟨charged, rfl, rfl, rfl, rfl⟩ := Parcel.exists_arrival_iff.mp ⟨item, taken, parts⟩
      exact .receive named charged
    | inject other content energy =>
      obtain ⟨rfl, stored⟩ := Option.ite_none_right_eq_some.mp made
      obtain ⟨rfl, rfl, rfl, rfl⟩ := parts
      obtain ⟨rfl, rfl, zero, self⟩ := Item.of?_eq_some_iff.mp stored
      rw [zero, self]
      exact .inject item.energy_pos
    | tick | kill | revive => cases made
  · intro offers
    cases offers with
    | inject charged =>
      obtain ⟨item, made⟩ : ∃ item, Item.of? content _ 0 .self = some item :=
        ⟨_, dif_pos (ne_zero_of_one_le_toNat charged)⟩
      obtain ⟨rfl, rfl, zero, self⟩ := Item.of?_eq_some_iff.mp made
      exact ⟨item, (if_pos rfl).trans made, rfl, rfl, by rw [zero]; rfl, self⟩
    | receive named charged =>
      obtain ⟨item, taken, parts⟩ := Parcel.exists_arrival_iff.mpr ⟨charged, rfl, rfl, rfl, rfl⟩
      exact ⟨item, Message.arrival?_eq_some_iff.mpr ⟨_, _, rfl, named, taken⟩, parts⟩
    | handle named charged =>
      obtain ⟨item, taken, parts⟩ := Parcel.exists_arrival_iff.mpr ⟨charged, rfl, rfl, rfl, rfl⟩
      exact ⟨item, Message.arrival?_eq_some_iff.mpr ⟨_, _, rfl, named, taken⟩, parts⟩

end NodeEvent

namespace Node
variable {node : Node} {id content : String} {energy hops : Nat} {provenance : Provenance}

/-- The node after an event. What is refused changes nothing. -/
def apply (node : Node) : NodeEvent → Node
  | .handle message source => (node.handle message source).2
  | .receive sender parcel => (node.receive sender parcel).2
  | .tick => node.tick.2
  | .inject id content energy =>
    match node.inject id content energy with
    | .ok next => next
    | .error _ => node
  | .kill => node.kill
  | .revive => node.revive.2

def replay (start : Node) (log : List NodeEvent) : Node := log.foldl apply start

def ticksAlive (start : Node) (log : List NodeEvent) : Nat :=
  (List.range log.length).countP fun index =>
    log[index]?.any NodeEvent.isTick && (start.replay (log.take index)).alive

def Holds (node : Node) (id content : String) (energy hops : Nat) (provenance : Provenance) : Prop :=
  ∃ item, node.store.get? id = some item ∧ item.content = content ∧ item.energy.toNat = energy ∧
    item.hops.toNat = hops ∧ item.provenance = provenance

theorem apply_inject_cases (node : Node) (id content : String) (energy : UInt64) :
    (∃ next, node.inject id content energy = .ok next ∧
        node.apply (.inject id content energy) = next) ∨
      ((∀ next, node.inject id content energy ≠ .ok next) ∧
        node.apply (.inject id content energy) = node) := by
  rw [apply]
  cases node.inject id content energy with
  | ok next => exact .inl ⟨next, rfl, rfl⟩
  | error cause => exact .inr ⟨nofun, rfl⟩

theorem samePlace_apply (node : Node) (event : NodeEvent) : SamePlace node (node.apply event) := by
  cases event with
  | handle message source => exact node.samePlace_handle message source
  | receive sender parcel => exact node.samePlace_handle (.information sender parcel) node.address
  | tick => exact node.samePlace_tick
  | inject id content energy =>
    rcases node.apply_inject_cases id content energy with ⟨next, taken, after⟩ | ⟨-, after⟩ <;>
      rw [after]
    · exact samePlace_inject taken
    · exact .refl node
  | kill => exact node.samePlace_kill
  | revive => exact node.samePlace_revive

theorem EmptyIfDead.apply (empty : node.EmptyIfDead) (event : NodeEvent) :
    (node.apply event).EmptyIfDead := by
  cases event with
  | handle message source => exact empty.handle message source
  | receive sender parcel => exact empty.handle (.information sender parcel) node.address
  | tick => exact empty.tick
  | inject id content energy =>
    rcases node.apply_inject_cases id content energy with ⟨next, taken, after⟩ | ⟨-, after⟩ <;>
      rw [after]
    · exact emptyIfDead_inject taken
    · exact empty
  | kill => exact node.emptyIfDead_kill
  | revive => exact node.emptyIfDead_revive

theorem alive_apply (node : Node) (event : NodeEvent) : (node.apply event).alive = true ↔
    event.fails = false ∧ (event = .revive ∨ node.alive = true) := by
  cases event with
  | handle message source =>
    by_cases lasting : message.kind = .die
    · cases message with
      | die => simp [apply, handle, kill, NodeEvent.fails]
      | _ => cases lasting
    · simp [apply, NodeEvent.fails_handle lasting, node.alive_handle lasting source]
  | receive sender parcel =>
    have kept : (node.receive sender parcel).2.alive = node.alive :=
      node.alive_handle (nofun : (Message.information sender parcel).kind ≠ .die) node.address
    simp [apply, kept, NodeEvent.fails]
  | tick =>
    rcases Bool.eq_false_or_eq_true node.alive with alive | dead
    · simp [apply, tick_of_alive alive, NodeEvent.fails]
    · simp [apply, tick_of_dead dead, NodeEvent.fails]
  | inject id content energy =>
    rcases node.apply_inject_cases id content energy with ⟨next, taken, after⟩ | ⟨-, after⟩ <;>
      rw [after]
    · obtain ⟨alive, -, item, -, rfl⟩ := inject_eq_ok_iff.mp taken
      simp [NodeEvent.fails]
    · simp [NodeEvent.fails]
  | kill => simp [apply, kill, NodeEvent.fails]
  | revive => simp [apply, revive, NodeEvent.fails]

theorem generation_apply (node : Node) (event : NodeEvent) : (node.apply event).generation =
    node.generation + if event.isTick && node.alive then 1 else 0 := by
  cases event with
  | handle message source =>
    obtain ⟨alive, store, handled⟩ := node.handle_eq message source
    simp [apply, handled, NodeEvent.isTick]
  | receive sender parcel =>
    obtain ⟨store, received⟩ := node.receive_eq sender parcel
    simp [apply, received, NodeEvent.isTick]
  | tick =>
    rcases Bool.eq_false_or_eq_true node.alive with alive | dead
    · simp [apply, tick_of_alive alive, NodeEvent.isTick, alive]
    · simp [apply, tick_of_dead dead, dead]
  | inject id content energy =>
    rcases node.apply_inject_cases id content energy with ⟨next, taken, after⟩ | ⟨-, after⟩ <;>
      rw [after]
    · obtain ⟨alive, -, item, -, rfl⟩ := inject_eq_ok_iff.mp taken
      simp [NodeEvent.isTick]
    · simp [NodeEvent.isTick]
  | kill => simp [apply, kill, NodeEvent.isTick]
  | revive => simp [apply, revive, NodeEvent.isTick]

/-- An item that arrives is taken in by an alive node that does not hold its id. -/
theorem get?_apply_arrival (empty : node.EmptyIfDead) {message : Message}
    (lasting : message.kind ≠ .die) (source : Address) (id : String) :
    (node.handle message source).2.store.get? id =
      (node.store.get? id).or (if node.alive then message.arrival? id else none) := by
  rcases Bool.eq_false_or_eq_true node.alive with alive | dead
  · rw [get?_handle alive lasting, if_pos alive]
  · rw [handle_of_dead dead empty, if_neg (by simp [dead]), Option.or_none]

/-- A failure clears the store, a tick lets every item decay, and what is offered to an alive node
is taken in under a free id. -/
theorem get?_apply (empty : node.EmptyIfDead) (event : NodeEvent) (id : String) :
    (node.apply event).store.get? id =
      if event.fails then none
      else if event.isTick then (node.store.get? id).bind Item.decayed?
      else (node.store.get? id).or (if node.alive then event.offer? id else none) := by
  cases event with
  | handle message source =>
    by_cases lasting : message.kind = .die
    · cases message with
      | die => rfl
      | _ => cases lasting
    · rw [NodeEvent.fails_handle lasting]
      exact get?_apply_arrival empty lasting source id
  | receive sender parcel =>
    exact get?_apply_arrival empty (nofun : (Message.information sender parcel).kind ≠ .die)
      node.address id
  | tick => exact get?_tick empty id
  | inject other content energy =>
    change (node.apply (.inject other content energy)).store.get? id =
      (node.store.get? id).or (if node.alive then
        if other = id then Item.of? content energy 0 .self else none else none)
    rcases node.apply_inject_cases other content energy with ⟨next, taken, after⟩ | ⟨refused, after⟩ <;>
      rw [after]
    · obtain ⟨alive, free, item, made, rfl⟩ := inject_eq_ok_iff.mp taken
      rw [if_pos alive]
      by_cases same : other = id
      · subst same
        simp [SortedMap.get?_insert, free, made]
      · simp [SortedMap.get?_insert, same, Ne.symm same]
    · cases held : node.store.get? id with
      | some item => rfl
      | none =>
        symm
        apply Option.eq_none_iff_forall_ne_some.mpr
        intro item offered
        rw [Option.none_or] at offered
        obtain ⟨alive, made⟩ := Option.ite_none_right_eq_some.mp offered
        obtain ⟨rfl, stored⟩ := Option.ite_none_right_eq_some.mp made
        exact refused _ (inject_eq_ok_iff.mpr ⟨alive, held, item, stored, rfl⟩)
  | kill => rfl
  | revive =>
    have kept : (node.apply .revive).store = node.store := rfl
    rw [kept]
    simp [NodeEvent.fails, NodeEvent.isTick, NodeEvent.offer?]

theorem Holds.energy_pos (holds : node.Holds id content energy hops provenance) : 1 ≤ energy := by
  obtain ⟨item, -, -, rfl, -⟩ := holds
  exact item.energy_pos

/-- What a node holds after an event it held before, with one unit more if the event was a tick, or
the event offered it. -/
theorem holds_apply_iff (empty : node.EmptyIfDead) (event : NodeEvent) :
    (node.apply event).Holds id content energy hops provenance ↔
      event.fails = false ∧ (1 ≤ energy ∧
          node.Holds id content (energy + event.isTick.toNat) hops provenance ∨
        node.alive = true ∧ node.store.get? id = none ∧
          event.Offers id content energy hops provenance) := by
  rw [← NodeEvent.exists_offer_iff, Holds, get?_apply empty]
  cases failing : event.fails with
  | true => simp
  | false =>
    cases ticking : event.isTick with
    | true =>
      have silent : event.offer? id = none := by
        cases event with
        | tick => rfl
        | _ => cases ticking
      cases held : node.store.get? id with
      | none => simp [Holds, held, silent]
      | some item => simpa [Holds, held] using Item.exists_decayed_iff
    | false =>
      have positive : node.Holds id content energy hops provenance ↔
          1 ≤ energy ∧ node.Holds id content energy hops provenance :=
        ⟨fun holds => ⟨holds.energy_pos, holds⟩, And.right⟩
      simp only [Bool.false_eq_true, if_false, true_and, Bool.toNat_false, Nat.add_zero, ← positive]
      cases held : node.store.get? id with
      | some item => simp [Holds, held]
      | none =>
        cases node.alive <;> simp [Holds, held]

theorem replay_concat (start : Node) (log : List NodeEvent) (last : NodeEvent) :
    start.replay (log ++ [last]) = (start.replay log).apply last := List.foldl_concat ..

theorem samePlace_replay (start : Node) (log : List NodeEvent) :
    SamePlace start (start.replay log) := by
  induction log using List.reverseRecOn with
  | nil => exact .refl start
  | append_singleton log last ih =>
    rw [replay_concat]
    have same := (start.replay log).samePlace_apply last
    exact ⟨same.id.trans ih.id, same.coord.trans ih.coord, same.address.trans ih.address,
      same.neighbors.trans ih.neighbors⟩

theorem EmptyIfDead.replay {start : Node} (empty : start.EmptyIfDead) (log : List NodeEvent) :
    (start.replay log).EmptyIfDead := by
  induction log using List.reverseRecOn with
  | nil => exact empty
  | append_singleton log last ih => exact replay_concat start log last ▸ ih.apply last

/-- An event of a longer log is its last one, or an event of the log before that. -/
theorem exists_split_concat_iff {Event : Type} {log : List Event} {last : Event}
    {holds : List Event → Event → List Event → Prop} :
    (∃ before event after, log ++ [last] = before ++ event :: after ∧ holds before event after) ↔
      holds log last [] ∨
        ∃ before event after, log = before ++ event :: after ∧ holds before event (after ++ [last]) := by
  constructor
  · intro found
    obtain ⟨before, event, after, split, held⟩ := found
    rcases List.eq_nil_or_concat' after with rfl | ⟨earlier, final, rfl⟩
    · obtain ⟨rfl, same⟩ := List.append_inj' split rfl
      cases same
      exact .inl held
    · rw [← List.cons_append, ← List.append_assoc] at split
      obtain ⟨rfl, same⟩ := List.append_inj' split rfl
      cases same
      exact .inr ⟨before, event, earlier, rfl, held⟩
  · intro found
    rcases found with held | ⟨before, event, after, rfl, held⟩
    · exact ⟨log, last, [], rfl, held⟩
    · exact ⟨before, event, after ++ [last], by simp, held⟩

/-- A node is alive unless a failure has not been followed by a revival. -/
theorem alive_replay_iff {start : Node} (alive : start.alive = true) (log : List NodeEvent) :
    (start.replay log).alive = true ↔ ¬ ∃ before event after,
      log = before ++ event :: after ∧ event.fails = true ∧ .revive ∉ after := by
  induction log using List.reverseRecOn with
  | nil => simpa [replay] using alive
  | append_singleton log last ih =>
    rw [replay_concat, alive_apply, ih, exists_split_concat_iff]
    by_cases revival : last = .revive
    · subst revival
      simp [NodeEvent.fails]
    · simp [revival, Ne.symm revival]

theorem ticksAlive_concat (start : Node) (log : List NodeEvent) (last : NodeEvent) :
    start.ticksAlive (log ++ [last]) = start.ticksAlive log +
      if last.isTick && (start.replay log).alive then 1 else 0 := by
  have earlier : (List.range log.length).countP (fun index =>
        (log ++ [last])[index]?.any NodeEvent.isTick &&
          (start.replay ((log ++ [last]).take index)).alive) = start.ticksAlive log := by
    apply List.countP_congr
    intro index inside
    have below := List.mem_range.mp inside
    rw [List.getElem?_append_left below, List.take_append_of_le_length (Nat.le_of_lt below)]
  rw [ticksAlive, List.length_append, List.length_singleton, List.range_succ, List.countP_append,
    earlier, List.countP_singleton]
  simp

/-- The generation counts the ticks while alive, as far as 64 bits go. -/
theorem generation_replay {start : Node} (zero : start.generation = 0) (log : List NodeEvent) :
    (start.replay log).generation = .ofNat (start.ticksAlive log) := by
  induction log using List.reverseRecOn with
  | nil => exact zero
  | append_singleton log last ih =>
    rw [replay_concat, generation_apply, ih, ticksAlive_concat, UInt64.ofNat_add]
    split <;> rfl

/-- What a node holds it was offered while it was alive and the id was free; since then it has not
failed, and it has lost one unit of energy with each tick. -/
theorem holds_replay_iff {start : Node} (empty : start.store = .empty) (log : List NodeEvent) :
    (start.replay log).Holds id content energy hops provenance ↔
      ∃ before event after, log = before ++ event :: after ∧
        (1 ≤ energy ∧ (start.replay before).alive = true ∧
          (start.replay before).store.get? id = none ∧ (∀ later ∈ after, later.fails = false) ∧
            event.Offers id content (energy + after.countP NodeEvent.isTick) hops provenance) := by
  induction log using List.reverseRecOn generalizing energy with
  | nil => simp [replay, Holds, empty]
  | append_singleton log last ih =>
    have settled : (start.replay log).EmptyIfDead := EmptyIfDead.replay (fun _ => empty) log
    have count (after : List NodeEvent) : energy + last.isTick.toNat + after.countP NodeEvent.isTick =
        energy + (after ++ [last]).countP NodeEvent.isTick := by
      rw [List.countP_append, List.countP_singleton]
      cases last.isTick with
      | true => exact Nat.add_right_comm ..
      | false => rfl
    rw [replay_concat, holds_apply_iff settled, ih, exists_split_concat_iff]
    constructor
    · intro holds
      obtain ⟨lasting, ⟨positive, before, event, after, split, -, alive, free, calm, offers⟩ |
        ⟨alive, free, offers⟩⟩ := holds
      · refine .inr ⟨before, event, after, split, positive, alive, free, ?_, count after ▸ offers⟩
        intro later member
        rcases List.mem_append.mp member with earlier | final
        · exact calm later earlier
        · exact List.mem_singleton.mp final ▸ lasting
      · exact .inl ⟨offers.fails_eq_false.2, alive, free, nofun, offers⟩
    · intro offered
      rcases offered with ⟨-, alive, free, -, offers⟩ |
        ⟨before, event, after, split, positive, alive, free, calm, offers⟩
      · exact ⟨offers.fails_eq_false.1, .inr ⟨alive, free, offers⟩⟩
      · refine ⟨calm last (by simp), .inl ⟨positive, before, event, after, split, by omega, alive,
          free, fun later member => calm later (List.mem_append_left _ member), ?_⟩⟩
        exact count after ▸ offers

/-- A valid configuration starts a node: alive, without items, and known by what was configured. -/
theorem ofConfig_of_validate {config : NodeConfig} (valid : config.validate = .ok ()) :
    ∃ start, ofConfig config = .ok start ∧ start.alive = true ∧ start.generation = 0 ∧
      start.store = .empty ∧ start.id = config.nodeId ∧ start.coord = config.coord ∧
        start.address = config.bind := by
  obtain ⟨-, address, -⟩ := NodeConfig.validate_eq_ok_iff.mp valid
  have onGrid := (Grid.addressOf_eq_ok_iff.mp address).1
  rw [ofConfig, valid, ok_bind, Grid.neighborsOf_eq_ok onGrid, ok_mapError, ok_bind]
  exact ⟨_, rfl, rfl, rfl, rfl, rfl, rfl, rfl⟩

theorem receive_of_held (empty : node.EmptyIfDead) {parcel : Parcel}
    (held : node.store.get? parcel.id ≠ none) (sender : String) :
    node.receive sender parcel = (.duplicate, node) := by
  have alive : node.alive = true := by
    by_contra dead
    rw [empty (Bool.eq_false_iff.mpr dead)] at held
    exact held rfl
  have contained : node.store.contains parcel.id = true := Option.isSome_iff_ne_none.mpr held
  rw [receive, if_neg (by simp [alive]), if_pos contained]

/-- A node that is what its configuration and its log say. -/
structure Reflects (config : NodeConfig) (start : Node) (log : List NodeEvent) (node : Node) :
    Prop where
  /-- It is alive unless a failure has not been followed by a revival. -/
  alive_iff : node.alive = true ↔ ¬ ∃ before event after,
    log = before ++ event :: after ∧ event.fails = true ∧ .revive ∉ after
  /-- No message brings it back to life. -/
  dead_handle : node.alive = false → ∀ message source, (node.handle message source).2.alive = false
  /-- Its generation counts the ticks while it was alive, in 64 bits. -/
  generation : node.generation.toNat = start.ticksAlive log % 2 ^ 64
  /-- It holds what was offered to it while it was alive and the id was free, if it has not failed
  since and the energy has lasted for the ticks since. -/
  holds_iff {id content : String} {energy hops : Nat} {provenance : Provenance} :
    node.Holds id content energy hops provenance ↔ ∃ before event after stored,
      log = before ++ event :: after ∧ event.Offers id content stored hops provenance ∧
        (start.replay before).alive = true ∧ (start.replay before).store.get? id = none ∧
          (∀ later ∈ after, later.fails = false) ∧ after.countP NodeEvent.isTick < stored ∧
            energy = stored - after.countP NodeEvent.isTick
  one_le_energy {id content : String} {energy hops : Nat} {provenance : Provenance} :
    node.Holds id content energy hops provenance → 1 ≤ energy
  empty_of_dead : node.alive = false → ∀ id, node.store.get? id = none
  /-- What arrives under a held id changes nothing. -/
  redelivery {parcel : Parcel} : node.store.get? parcel.id ≠ none → ∀ sender source,
    node.receive sender parcel = (.duplicate, node) ∧
      node.handle (.information sender parcel) source = (none, node)
  identity : node.id = config.nodeId ∧ node.coord = config.coord ∧ node.address = config.bind
  neighbors : node.neighbors = start.neighbors

/-- A node that a valid configuration starts reflects its log, whatever happens to it. -/
theorem reflects_of_validate {config : NodeConfig} (valid : config.validate = .ok ()) :
    ∃ start, ofConfig config = .ok start ∧
      ∀ log : List NodeEvent, Reflects config start log (start.replay log) := by
  obtain ⟨start, started, alive, zero, empty, id, coord, address⟩ := ofConfig_of_validate valid
  refine ⟨start, started, fun log => ?_⟩
  have settled : (start.replay log).EmptyIfDead := EmptyIfDead.replay (fun _ => empty) log
  have same := start.samePlace_replay log
  constructor
  case alive_iff => exact alive_replay_iff alive log
  case dead_handle =>
    intro dead message source
    rw [handle_of_dead dead settled]
    exact dead
  case generation => rw [generation_replay zero, UInt64.toNat_ofNat']
  case holds_iff =>
    intro id content energy hops provenance
    rw [holds_replay_iff empty]
    constructor
    · intro offered
      obtain ⟨before, event, after, split, positive, alive, free, calm, offers⟩ := offered
      exact ⟨before, event, after, _, split, offers, alive, free, calm, by omega, by omega⟩
    · intro offered
      obtain ⟨before, event, after, stored, split, offers, alive, free, calm, lasts, rfl⟩ := offered
      have whole : stored - after.countP NodeEvent.isTick + after.countP NodeEvent.isTick = stored :=
        Nat.sub_add_cancel (Nat.le_of_lt lasts)
      exact ⟨before, event, after, split, by omega, alive, free, calm, whole.symm ▸ offers⟩
  case one_le_energy => exact Holds.energy_pos
  case empty_of_dead =>
    intro dead id
    rw [settled dead]
    rfl
  case redelivery =>
    intro parcel held sender source
    have repeated := receive_of_held settled held sender
    exact ⟨repeated, by rw [handle, repeated]⟩
  case identity => exact ⟨same.id.trans id, same.coord.trans coord, same.address.trans address⟩
  case neighbors => exact same.neighbors

def corner : NodeConfig where
  nodeId := "north west"
  grid := .fourCells
  coord := ⟨0, 0⟩
  bind := ⟨.loopback, 9000, 0⟩
  tickMs := 250
  sendBuffer := 4096
  receiveBuffer := 4096
  adminSocket := none

/-- After its death a node takes an item in again, and holds what it was offered last. -/
theorem reflects_of_validate_corner :
    let log : List NodeEvent := [.inject "x" "" 3, .tick, .handle (.die "") ⟨.loopback, 1, 0⟩,
      .revive, .inject "x" "new" 2, .tick, .receive "y" ⟨"x", "", 9, 0⟩]
    corner.validate = .ok () ∧ ∃ start, ofConfig corner = .ok start ∧
      Reflects corner start log (start.replay log) ∧
        (start.replay log).Holds "x" "new" 1 0 .self := by
  intro log
  have valid : corner.validate = .ok () := NodeConfig.validate_eq_ok_iff.mpr (by decide +kernel)
  obtain ⟨start, started, reflects⟩ := reflects_of_validate valid
  refine ⟨valid, start, started, reflects log, (reflects log).holds_iff.mpr ?_⟩
  exact ⟨log.take 4, .inject "x" "new" 2, log.drop 5, 2, rfl, .inject (by decide), rfl, rfl,
    by decide, by decide, rfl⟩

end Node
end GridDiffusion
