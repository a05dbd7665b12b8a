import GridDiffusion.Proofs.Network.Round
/-! How long an item lives: whatever fails, comes back or is cut in between, all copies of an
injected item carry the same energy, one unit less after each round. -/
namespace GridDiffusion

def Message.Carries (message : Message) (id : String) : Prop :=
  ∃ sender parcel, message = .information sender parcel ∧ parcel.id = id

/-- Whether a step leaves an id alone: it neither sends nor injects an item under it. -/
def NetworkAction.Spares (id : String) : NetworkAction → Prop
  | .send _ message => ¬ message.Carries id
  | .inject _ other _ _ | .localInject _ other _ _ => other ≠ id
  | .kill _ | .localKill _ | .revive _ | .cut _ _ | .flush | .ping _ | .round => True

namespace Network
variable {network : Network} {cell origin : Coord} {id content : String} {item : Item}

def HasNoneInFlight (network : Network) (id : String) : Prop :=
  ∀ packet ∈ network.inFlight, ¬ packet.message.Carries id

theorem carries_of_brought {packet : Packet} (brought : network.brought? cell id packet = some item) :
    packet.message.Carries id := by
  obtain ⟨⟨message, source⟩, given, arrived⟩ := Option.bind_eq_some_iff.mp brought
  obtain ⟨-, -, -, sent, -⟩ := handed?_eq_some_iff.mp given
  obtain ⟨sender, parcel, rfl, named, -⟩ := Message.arrival?_eq_some_iff.mp arrived
  exact ⟨sender, parcel, Message.of_overWire_information sent, named⟩

/-- A step brings no copy of an id into the network: what is held afterwards was held before, and
nothing of it is in flight. -/
def KeepsOut (before after : Network) (id : String) : Prop :=
  after.HasNoneInFlight id ∧
    ∀ cell item, after.held? cell id = some item → before.held? cell id = some item

theorem keepsOut_deliverAll (unsent : network.HasNoneInFlight id) :
    network.KeepsOut network.deliverAll id := by
  constructor
  · intro packet member
    rw [inFlight_deliverAll] at member
    cases member
  · intro cell item held
    rcases held_of_deliverAll held with before | ⟨packet, flying, brought⟩
    · exact before
    · exact absurd (carries_of_brought brought) (unsent packet flying)

theorem keepsOut_send (unsent : network.HasNoneInFlight id) {message : Message}
    (other : ¬ message.Carries id) (cell : Coord) :
    network.KeepsOut ((network.send cell message).toOption.getD network) id := by
  rcases network.send_cases cell message with ⟨target, -, sent⟩ | ⟨cause, refused⟩
  · rw [sent]
    refine ⟨fun packet member => ?_, fun _ _ held => held⟩
    rcases List.mem_append.mp member with queued | new
    · exact unsent packet queued
    · obtain rfl := List.mem_singleton.mp new
      exact other
  · rw [refused]
    exact ⟨unsent, fun _ _ held => held⟩

theorem keepsOut_updateNode (unsent : network.HasNoneInFlight id) {change : Node → Node}
    (keeps : ∀ (node : Node) (item : Item), (change node).store.get? id = some item →
      node.store.get? id = some item) (cell : Coord) :
    network.KeepsOut (network.updateNode cell change) id := by
  have flying := network.inFlight_updateNode cell change
  refine ⟨fun packet member => unsent packet (flying ▸ member), fun other item held => ?_⟩
  rw [held?, node?_updateNode] at held
  split at held
  next here =>
    obtain ⟨after, changed, stored⟩ := Option.bind_eq_some_iff.mp held
    obtain ⟨node, found, rfl⟩ := Option.map_eq_some_iff.mp changed
    exact Option.bind_eq_some_iff.mpr ⟨node, found, keeps node item stored⟩
  · exact held

theorem keepsOut_inject (unsent : network.HasNoneInFlight id) {other : String} (apart : other ≠ id)
    (cell : Coord) (content : String) (energy : UInt64) :
    network.KeepsOut (network.updateNode cell fun node =>
      (node.inject other content energy).toOption.getD node) id := by
  apply keepsOut_updateNode unsent
  intro node item held
  cases taken : node.inject other content energy with
  | error cause =>
    rw [taken] at held
    exact held
  | ok next =>
    obtain ⟨-, -, own, -, rfl⟩ := Node.inject_eq_ok_iff.mp taken
    have same : (node.store.insert other own).get? id = node.store.get? id :=
      (SortedMap.get?_insert ..).trans (if_neg apart.symm)
    rw [taken] at held
    exact same ▸ held

theorem keepsOut_cutLink (unsent : network.HasNoneInFlight id) (left right : Coord) :
    network.KeepsOut ((network.cutLink left right).toOption.getD network) id := by
  rcases network.cutLink_cases left right with ⟨_, _, -, -, cut⟩ | ⟨cause, refused⟩
  · rw [cut]
    exact ⟨unsent, fun _ _ held => held⟩
  · rw [refused]
    exact ⟨unsent, fun _ _ held => held⟩

theorem keepsOut_ping (unsent : network.HasNoneInFlight id) (cell : Coord) :
    network.KeepsOut (((network.ping cell).toOption.map (·.2)).getD network) id := by
  rcases network.ping_cases cell with ⟨sent, answer, inbox, given, pinged⟩ | ⟨cause, -, refused⟩
  · have blank : ¬ (Message.ping controllerId []).Carries id := by
      intro carries
      obtain ⟨sender, parcel, same, -⟩ := carries
      cases same
    have first := keepsOut_send unsent blank cell
    rw [given] at first
    have second := keepsOut_deliverAll first.1
    rw [pinged]
    exact ⟨second.1, fun cell item held => first.2 cell item (second.2 cell item held)⟩
  · rw [refused]
    exact ⟨unsent, fun _ _ held => held⟩

theorem keepsOut_perform (unsent : network.HasNoneInFlight id) {action : NetworkAction}
    (spares : action.Spares id) (other : action ≠ .round) :
    network.KeepsOut (network.perform action) id := by
  cases action with
  | send cell message => exact keepsOut_send unsent spares cell
  | inject cell otherId content energy =>
    refine keepsOut_send unsent ?_ cell
    intro carries
    obtain ⟨sender, parcel, same, named⟩ := carries
    obtain ⟨-, rfl⟩ := Message.information.inj same
    exact spares named
  | kill cell =>
    refine keepsOut_send unsent ?_ cell
    intro carries
    obtain ⟨sender, parcel, same, -⟩ := carries
    cases same
  | localInject cell otherId content energy => exact keepsOut_inject unsent spares cell content energy
  | localKill cell =>
    apply keepsOut_updateNode unsent
    intro node item held
    cases held
  | revive cell =>
    rw [perform]
    apply keepsOut_updateNode unsent
    intro node item held
    exact held
  | cut left right => exact keepsOut_cutLink unsent left right
  | flush => exact keepsOut_deliverAll unsent
  | ping cell => exact keepsOut_ping unsent cell
  | round => exact absurd rfl other

/-- The state of an item some rounds after it was injected: nothing of it is in flight, and every
copy has spent one unit of energy in each round and has come no further than its hops. -/
structure Circulates (network : Network) (origin : Coord) (id content : String) (total spent : Nat) :
    Prop where
  unsent : network.HasNoneInFlight id
  content {cell : Coord} {item : Item} : network.held? cell id = some item → item.content = content
  energy {cell : Coord} {item : Item} : network.held? cell id = some item →
    item.energy.toNat + spent = total
  far {cell : Coord} {item : Item} : network.held? cell id = some item →
    origin.chebyshev cell ≤ item.hops.toNat
  near {cell : Coord} {item : Item} : network.held? cell id = some item → item.hops.toNat ≤ spent

variable {total spent : Nat}

theorem Circulates.of_keepsOut {before after : Network}
    (circulates : before.Circulates origin id content total spent)
    (keeps : before.KeepsOut after id) : after.Circulates origin id content total spent where
  unsent := keeps.1
  content held := circulates.content (keeps.2 _ _ held)
  energy held := circulates.energy (keeps.2 _ _ held)
  far held := circulates.far (keeps.2 _ _ held)
  near held := circulates.near (keeps.2 _ _ held)

/-- After a round a copy is an older copy that decayed, or the copy that a neighbor passed on. Both
have spent one unit of energy more; the second has made a hop more as well. -/
theorem Circulates.runRound (circulates : network.Circulates origin id content total spent)
    (sound : network.WellFormed) (bounded : total ≤ 2 ^ 63 - 1) :
    network.runRound.Circulates origin id content total (spent + 1) := by
  have each {cell : Coord} {copy : Item} (held : network.runRound.held? cell id = some copy) :
      copy.content = content ∧ copy.energy.toNat + (spent + 1) = total ∧
        origin.chebyshev cell ≤ copy.hops.toNat ∧ copy.hops.toNat ≤ spent + 1 := by
    rcases held_of_runRound sound held with ⟨item, before, decayed⟩ | ⟨packet, flying, brought⟩ |
      ⟨source, passed⟩
    · obtain ⟨sameContent, less, sameHops, -⟩ := Item.decayed?_eq_some_iff.mp decayed
      have energy := circulates.energy before
      have near := circulates.near before
      exact ⟨sameContent.trans (circulates.content before), by omega,
        sameHops ▸ circulates.far before, sameHops ▸ Nat.le_succ_of_le near⟩
    · exact absurd (carries_of_brought brought) (circulates.unsent packet flying)
    · obtain ⟨step, -, item, before, -, arrived⟩ := passed?_eq_some_iff.mp passed
      obtain ⟨sameContent, less, more, -⟩ := Item.arrival?_parcel_eq_some_iff.mp arrived
      have energy := circulates.energy before
      have near := circulates.near before
      have far := circulates.far before
      have further := Coord.chebyshev_le_succ origin step
      exact ⟨sameContent.trans (circulates.content before), by omega, by omega, by omega⟩
  refine ⟨fun packet member => ?_, fun held => (each held).1, fun held => (each held).2.1,
    fun held => (each held).2.2.1, fun held => (each held).2.2.2⟩
  rw [inFlight_runRound] at member
  cases member

theorem Circulates.perform (circulates : network.Circulates origin id content total spent)
    (sound : network.WellFormed) (bounded : total ≤ 2 ^ 63 - 1) {action : NetworkAction}
    (spares : action.Spares id) : (network.perform action).Circulates origin id content total
      (spent + if action = .round then 1 else 0) := by
  by_cases round : action = .round
  · subst round
    exact circulates.runRound sound bounded
  · rw [if_neg round]
    exact circulates.of_keepsOut (keepsOut_perform circulates.unsent spares round)

/-- The rounds of a run are what all copies of an item have spent. -/
theorem Circulates.performAll (circulates : network.Circulates origin id content total spent)
    (sound : network.WellFormed) (bounded : total ≤ 2 ^ 63 - 1) {actions : List NetworkAction}
    (spares : ∀ action ∈ actions, action.Spares id) :
    (network.performAll actions).Circulates origin id content total
      (spent + actions.count .round) := by
  induction actions generalizing network spent with
  | nil => exact circulates
  | cons action rest ih =>
    have next := circulates.perform sound bounded (spares action List.mem_cons_self)
    have final := ih next (sound.perform action) fun other member =>
      spares other (List.mem_cons_of_mem _ member)
    have rounds : (spent + if action = .round then 1 else 0) + rest.count .round =
        spent + (action :: rest).count .round := by
      rw [List.count_cons, Nat.add_assoc, Nat.add_comm (rest.count _)]
      simp
    exact rounds ▸ final

/-- Right after the injection there is one copy, at the origin. -/
theorem circulates_localInject (unheld : ∀ cell, network.held? cell id = none)
    (unsent : network.HasNoneInFlight id) (alive : network.isAlive origin = true) {energy : UInt64}
    (charged : energy ≠ 0) (content : String) :
    (network.perform (.localInject origin id content energy)).Circulates origin id content
      energy.toNat 0 := by
  obtain ⟨item, sameContent, amount, hops, -, held, -, same, flying⟩ :=
    perform_localInject alive (unheld origin) charged content
  have only {cell : Coord} {copy : Item}
      (found : (network.perform (.localInject origin id content energy)).held? cell id =
        some copy) : cell = origin ∧ copy = item := by
    rw [held] at found
    split at found
    next here => exact ⟨here.1, (Option.some.inj found).symm⟩
    · rw [unheld] at found
      cases found
  refine ⟨fun packet member => unsent packet (flying ▸ member), fun found => ?_, fun found => ?_,
    fun found => ?_, fun found => ?_⟩
  · obtain ⟨-, rfl⟩ := only found
    exact sameContent
  · obtain ⟨-, rfl⟩ := only found
    rw [amount, Nat.add_zero]
  · obtain ⟨rfl, rfl⟩ := only found
    rw [Coord.chebyshev_eq_zero_iff.mpr rfl]
    exact Nat.zero_le _
  · obtain ⟨-, rfl⟩ := only found
    rw [hops]
    exact Nat.le_refl 0

/-- An item that is injected where nothing of it is held or in flight is taken in. From then on, in
any run that leaves its id alone, every copy has the injected content, the energy that is left of
the injected energy after the rounds of the run, and hops between its distance from the origin and
those rounds; when they have used up the energy, nothing is left. -/
theorem lifetime_of_localInject (reached : network.Reachable)
    (unheld : ∀ cell, network.held? cell id = none) (unsent : network.HasNoneInFlight id)
    (alive : network.isAlive origin = true) {energy : UInt64} (positive : 1 ≤ energy.toNat)
    (bounded : energy.toNat ≤ 2 ^ 63 - 1) (content : String) {actions : List NetworkAction}
    (spares : ∀ action ∈ actions, action.Spares id) :
    (∃ item, (network.perform (.localInject origin id content energy)).held? origin id = some item) ∧
    (∀ cell item, ((network.perform (.localInject origin id content energy)).performAll
        actions).held? cell id = some item →
      item.content = content ∧ item.energy.toNat + actions.count .round = energy.toNat ∧
        origin.chebyshev cell ≤ item.hops.toNat ∧ item.hops.toNat ≤ actions.count .round) ∧
    (energy.toNat ≤ actions.count .round → ∀ cell,
      ((network.perform (.localInject origin id content energy)).performAll actions).held? cell id =
        none) := by
  have charged := ne_zero_of_one_le_toNat positive
  obtain ⟨item, -, -, -, -, held, -⟩ := perform_localInject alive (unheld origin) charged content
  have start := circulates_localInject unheld unsent alive charged content
  have circulates := start.performAll (reached.perform _).wellFormed bounded spares
  rw [Nat.zero_add] at circulates
  refine ⟨⟨item, (held origin id).trans (if_pos ⟨rfl, rfl⟩)⟩, fun cell copy found =>
    ⟨circulates.content found, circulates.energy found, circulates.far found, circulates.near found⟩,
    fun spentAll cell => ?_⟩
  apply Option.eq_none_iff_forall_not_mem.mpr
  intro copy found
  have left := circulates.energy found
  have positive := copy.energy_pos
  omega

/-- Three units of energy are gone after three rounds, though a cell fails and comes back. -/
theorem lifetime_of_localInject_three :
    (((fresh .fourCells).perform (.localInject ⟨0, 0⟩ "x" "" 3)).performAll
      [.round, .localKill ⟨1, 1⟩, .round, .revive ⟨1, 1⟩, .round]).held? ⟨1, 1⟩ "x" = none := by
  have spares : ∀ action ∈ [NetworkAction.round, .localKill ⟨1, 1⟩, .round, .revive ⟨1, 1⟩, .round],
      action.Spares "x" := by simp [NetworkAction.Spares]
  have alive : (fresh .fourCells).isAlive ⟨0, 0⟩ = true := isAlive_fresh (by decide)
  obtain ⟨-, -, ended⟩ := lifetime_of_localInject (reachable_fresh rfl (by decide))
    (fun cell => held?_fresh .fourCells cell "x") nofun alive (by decide : 1 ≤ (3 : UInt64).toNat)
    (by decide) "" spares
  exact ended (by decide) ⟨1, 1⟩

end Network
end GridDiffusion
