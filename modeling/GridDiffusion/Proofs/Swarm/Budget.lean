import Mathlib.Data.List.Induction
import GridDiffusion.Proofs.Message.Size
import GridDiffusion.Proofs.Swarm.Basic
/-! The budget of a swarm: however its steps interleave, every copy of an item is paid for by one
injection, which also bounds how far the copy can have come. -/
namespace GridDiffusion.Swarm

variable {grid : Grid} {swarm : Swarm grid} {cell : Coord} {id content : String}

/-- Which injections there have been: the cell, the item and its energy. -/
abbrev Ledger := Coord → String → String → UInt64 → Prop

/-- A copy at a cell that one of the injections pays for: what it has left and the hops it has made
cost no more than the injected energy, and it has come no further than its hops. -/
def Ledger.Covers (ledger : Ledger) (cell : Coord) (id content : String) (energy hops : Nat) : Prop :=
  ∃ origin total, ledger origin id content total ∧ energy + hops ≤ total.toNat ∧
    origin.chebyshev cell ≤ hops

/-- Whether an item was injected at its cell or comes from a neighbor. -/
def ComesFromAround (grid : Grid) (cell : Coord) (provenance : Provenance) : Prop :=
  provenance = .self ∨ ∃ near ∈ grid.mooreNeighbors cell, provenance = .peer near.peerId

/-- A swarm in which injections pay for all copies, held or on their way. A copy on its way is still
counted where it was sent, and goes to a neighbor of that cell. -/
structure Budgeted (ledger : Ledger) (swarm : Swarm grid) : Prop where
  settled : swarm.IsSettled
  held {place : Fin grid.cellCount} {id : String} {item : Item} :
    (swarm.nodes place).store.get? id = some item →
      ledger.Covers (grid.cellAt place) id item.content item.energy.toNat item.hops.toNat ∧
        ComesFromAround grid (grid.cellAt place) item.provenance
  carried {delivery : Delivery} {sender : String} {parcel : Parcel} : delivery ∈ swarm.bag →
    Message.decode delivery.datagram.bytes = .ok (.information sender parcel) →
      ∃ place, ∃ near ∈ grid.mooreNeighbors (grid.cellAt place),
        delivery.target = (grid.neighborAt near).address ∧
          sender = (grid.cellAt place).peerId ∧
            ledger.Covers (grid.cellAt place) parcel.id parcel.content parcel.energy.toInt.toNat
              parcel.hops.toNat

variable {ledger : Ledger}

theorem Ledger.Covers.mono {other : Ledger} {energy hops : Nat}
    (covers : ledger.Covers cell id content energy hops)
    (more : ∀ {origin id content total}, ledger origin id content total →
      other origin id content total) : other.Covers cell id content energy hops := by
  obtain ⟨origin, total, paid, budget, near⟩ := covers
  exact ⟨origin, total, more paid, budget, near⟩

theorem Ledger.Covers.spend {energy hops less : Nat}
    (covers : ledger.Covers cell id content energy hops) (spent : less ≤ energy) :
    ledger.Covers cell id content less hops := by
  obtain ⟨origin, total, paid, budget, near⟩ := covers
  exact ⟨origin, total, paid, by omega, near⟩

/-- A copy that arrives has paid for its way, so that its hops stay within what a counter holds. -/
theorem Ledger.Covers.arrival {source near : Coord} {parcel : Parcel} {sender : String} {item : Item}
    (covers : ledger.Covers source parcel.id parcel.content parcel.energy.toInt.toNat
      parcel.hops.toNat) (step : source.areNeighbors near = true)
    (arrived : parcel.arrival? sender = some item) :
    ledger.Covers near parcel.id item.content item.energy.toNat item.hops.toNat := by
  obtain ⟨origin, total, paid, budget, close⟩ := covers
  obtain ⟨content, less, hops, -⟩ := Parcel.arrival?_eq_some_iff.mp arrived
  have further := Coord.chebyshev_le_succ origin step
  have bound := total.toNat_lt
  have counted : item.hops.toNat = min (parcel.hops.toNat + 1) (2 ^ 64 - 1) :=
    hops ▸ toNat_saturatingSucc parcel.hops
  exact ⟨origin, total, content ▸ paid, by omega, by omega⟩

theorem Budgeted.mono {other : Ledger} (budgeted : Budgeted ledger swarm)
    (more : ∀ {origin id content total}, ledger origin id content total →
      other origin id content total) : Budgeted other swarm where
  settled := budgeted.settled
  held found := (budgeted.held found).imp_left fun covers => covers.mono more
  carried inside decoded := by
    obtain ⟨place, near, around, target, sender, covers⟩ := budgeted.carried inside decoded
    exact ⟨place, near, around, target, sender, covers.mono more⟩

theorem Budgeted.arrival (budgeted : Budgeted ledger swarm) {place : Fin grid.cellCount}
    {delivery : Delivery} {message : Message} {item : Item} (carried : delivery ∈ swarm.bag)
    (here : (swarm.nodes place).address = delivery.target)
    (decoded : Message.decode delivery.datagram.bytes = .ok message)
    (brought : message.arrival? id = some item) :
    ledger.Covers (grid.cellAt place) id item.content item.energy.toNat item.hops.toNat ∧
      ComesFromAround grid (grid.cellAt place) item.provenance := by
  obtain ⟨sender, parcel, rfl, rfl, arrived⟩ := Message.arrival?_eq_some_iff.mp brought
  obtain ⟨source, near, around, target, rfl, covers⟩ := budgeted.carried carried decoded
  obtain ⟨inside, step⟩ := Grid.mem_mooreNeighbors.mp around
  have address := Grid.addressOf_neighborAt inside
  rw [← target, ← here] at address
  obtain rfl := Grid.addressOf_injective (budgeted.settled place).address address
  have back := Grid.mem_mooreNeighbors.mpr
    ⟨Grid.contains_cellAt source, Coord.areNeighbors_comm.mp step⟩
  obtain ⟨-, -, -, from_⟩ := Parcel.arrival?_eq_some_iff.mp arrived
  exact ⟨covers.arrival step arrived, .inr ⟨_, back, from_⟩⟩

theorem Ledger.covers_of? {energy : UInt64} {item : Item} (paid : ledger cell id content energy)
    (made : Item.of? content energy 0 .self = some item) :
    ledger.Covers cell id item.content item.energy.toNat item.hops.toNat := by
  obtain ⟨rfl, rfl, hops, -⟩ := Item.of?_eq_some_iff.mp made
  refine ⟨cell, item.energy, paid, ?_, ?_⟩
  · rw [hops]
    exact Nat.le_refl _
  · rw [Coord.chebyshev_eq_zero_iff.mpr rfl]
    exact Nat.zero_le _

theorem Budgeted.held_of_nodeChange (budgeted : Budgeted ledger swarm) {step : SwarmStep grid}
    (paid : ∀ {place id content energy node}, step = .inject place id content energy →
      (swarm.nodes place).inject id content energy = .ok node →
        ledger (grid.cellAt place) id content energy)
    {place : Fin grid.cellCount} {node : Node} {item : Item}
    (change : NodeChange swarm place step node) (found : node.store.get? id = some item) :
    ledger.Covers (grid.cellAt place) id item.content item.energy.toNat item.hops.toNat ∧
      ComesFromAround grid (grid.cellAt place) item.provenance := by
  have lives := budgeted.settled place
  cases change with
  | none => exact budgeted.held found
  | tick =>
    rw [Node.get?_tick lives.emptyIfDead] at found
    obtain ⟨old, before, decayed⟩ := Option.bind_eq_some_iff.mp found
    obtain ⟨content, less, hops, provenance⟩ := Item.decayed?_eq_some_iff.mp decayed
    obtain ⟨covers, around⟩ := budgeted.held before
    rw [content, hops, provenance]
    exact ⟨covers.spend (by omega), around⟩
  | handle carried here decoded =>
    rcases Node.held_of_handle found with before | brought
    · exact budgeted.held before
    · exact budgeted.arrival carried here decoded brought
  | kill => cases found
  | revive => exact budgeted.held found
  | inject taken =>
    have injection := paid rfl taken
    obtain ⟨-, -, own, made, rfl⟩ := Node.inject_eq_ok_iff.mp taken
    have stored := (SortedMap.get?_insert ..).symm.trans found
    split at stored
    next same =>
      obtain rfl := Option.some.inj stored
      obtain ⟨-, -, -, provenance⟩ := Item.of?_eq_some_iff.mp made
      exact ⟨same ▸ Ledger.covers_of? injection made, .inl provenance⟩
    · exact budgeted.held stored

theorem Budgeted.carried_of_source (budgeted : Budgeted ledger swarm) {step : SwarmStep grid}
    {delivery : Delivery} {sender : String} {parcel : Parcel} (source : Source swarm delivery step)
    (decoded : Message.decode delivery.datagram.bytes = .ok (.information sender parcel)) :
    ∃ place, ∃ near ∈ grid.mooreNeighbors (grid.cellAt place),
      delivery.target = (grid.neighborAt near).address ∧ sender = (grid.cellAt place).peerId ∧
        ledger.Covers (grid.cellAt place) parcel.id parcel.content parcel.energy.toInt.toNat
          parcel.hops.toNat := by
  cases source with
  | before carried => exact budgeted.carried carried decoded
  | tick sent =>
    rename_i place
    obtain ⟨outgoing, member, target, arrived⟩ := decode_of_mem_carry sent decoded
    obtain ⟨id, item, held, near, around, rfl⟩ := (budgeted.settled place).mem_tick_iff.mp member
    obtain ⟨rfl, rfl⟩ := Message.information.inj (Message.of_overWire_information arrived)
    have amount : (item.parcel id).energy.toInt = _ := toInt_wireEnergy item.energy
    refine ⟨place, near, around, target, rfl, (budgeted.held held).1.spend ?_⟩
    omega
  | plain plain sent =>
    obtain ⟨outgoing, member, -, arrived⟩ := decode_of_mem_carry sent decoded
    exact absurd (Message.kind_overWire arrived).symm (plain outgoing member)

theorem Budgeted.step (budgeted : Budgeted ledger swarm) {step : SwarmStep grid}
    (paid : ∀ {place id content energy node}, step = .inject place id content energy →
      (swarm.nodes place).inject id content energy = .ok node →
        ledger (grid.cellAt place) id content energy) : Budgeted ledger (swarm.step step) where
  settled := budgeted.settled.step step
  held {place _ _} found := budgeted.held_of_nodeChange paid (nodeChange_step swarm step place) found
  carried inside decoded := budgeted.carried_of_source (source_of_mem_step inside) decoded

/-- The injections of a run: each succeeded in the swarm that the steps before it led to. -/
def injections (start : Swarm grid) (steps : List (SwarmStep grid)) : Ledger :=
  fun origin id content energy => ∃ before place after node,
    steps = before ++ .inject place id content energy :: after ∧ grid.cellAt place = origin ∧
      ((start.run before).nodes place).inject id content energy = .ok node

/-- Every run of a fresh swarm keeps within the budget of its injections. -/
theorem IsFresh.budgeted_run {start : Swarm grid} (fresh : start.IsFresh)
    (steps : List (SwarmStep grid)) : Budgeted (start.injections steps) (start.run steps) := by
  induction steps using List.reverseRecOn with
  | nil =>
    refine ⟨fresh.isSettled, fun {place id item} found => ?_, fun inside _ => ?_⟩
    · have node : (start.run []).nodes place = Node.fresh grid (grid.cellAt place) :=
        fresh.node_eq place
      rw [node] at found
      cases found
    · rw [run, List.foldl_nil, fresh.bag] at inside
      cases inside
  | append_singleton steps step ih =>
    rw [run_append]
    have covered : Budgeted (start.injections (steps ++ [step])) (start.run steps) := by
      apply ih.mono
      intro origin id content energy injected
      obtain ⟨before, place, after, node, rfl, here, taken⟩ := injected
      exact ⟨before, place, after ++ [step], node, by simp, here, taken⟩
    apply covered.step
    intro place id content energy node injects taken
    exact ⟨steps, place, [], node, by rw [injects], rfl, taken⟩

/-- Whatever a node of a started swarm holds, in any order of steps, goes back to one earlier
injection: the copy has its content, has no more left than the injected energy less its hops, and
has come no further than its hops from there, which are fewer than the injected energy. It was
injected at the cell itself or comes from a neighbor of the cell. -/
theorem held_of_run {start : Swarm grid} (fresh : start.IsFresh) (steps : List (SwarmStep grid))
    {place : Fin grid.cellCount} {item : Item}
    (held : ((start.run steps).nodes place).store.get? id = some item) :
    ∃ before origin after energy node,
      steps = before ++ .inject origin id item.content energy :: after ∧
      ((start.run before).nodes origin).inject id item.content energy = .ok node ∧
      item.energy.toNat + item.hops.toNat ≤ energy.toNat ∧
      (grid.cellAt origin).chebyshev (grid.cellAt place) ≤ item.hops.toNat ∧
      item.hops.toNat ≤ energy.toNat - 1 ∧
      (grid.cellAt origin).chebyshev (grid.cellAt place) < energy.toNat ∧
      (item.provenance = .self ∨
        ∃ near ∈ grid.mooreNeighbors (grid.cellAt place), item.provenance = .peer near.peerId) := by
  obtain ⟨⟨_, energy, ⟨before, origin, after, node, split, rfl, taken⟩, budget, near⟩, around⟩ :=
    (fresh.budgeted_run steps).held held
  have left := item.energy_pos
  exact ⟨before, origin, after, energy, node, split, taken, budget, near, by omega, by omega, around⟩

/-- An item goes out from the first of four cells. It gets lost on the way to one of the others and
reaches the one across, and the datagram that brought it there stays on its way. -/
def relay : List (SwarmStep .fourCells) :=
  [.inject ⟨0, Nat.succ_pos 3⟩ "x" "" 3, .tick ⟨0, Nat.succ_pos 3⟩, .lose 0, .deliver 1 true]

def relaying : Node :=
  { Node.fresh .fourCells ⟨0, 0⟩ with
    store := SortedMap.empty.insert "x" ⟨"", 3, 0, .self, by decide⟩ }

def relayed : Message := .information "node_0_0" ⟨"x", "", 3, 0⟩

theorem carry_tick_relaying : Link.up.carry relaying.address relaying.tick.1 =
    [9002, 9001, 9003].map fun port =>
      ⟨⟨.loopback, port, 0⟩, relaying.address, relayed.text.toUTF8⟩ := by
  have sent : relaying.tick.1 =
      [9002, 9001, 9003].map fun port => ⟨⟨.loopback, port, 0⟩, relayed⟩ := by decide +kernel
  have fits : relayed.Fits := by
    rw [Message.Fits, relayed, Message.utf8ByteSize_information]
    decide
  rw [sent, carry_of_fits (by simpa using fits), List.map_map]
  rfl

/-- The copy that the cell across holds is paid for by the injection at the first cell. -/
theorem held_of_run_relay :
    let item : Item := ⟨"", 2, 1, .peer "node_0_0", by decide⟩
    (fresh .fourCells).IsFresh ∧
      (((fresh .fourCells).run relay).nodes ⟨3, by decide⟩).store.get? "x" = some item ∧
      item.energy.toNat + item.hops.toNat ≤ 3 ∧
      (Grid.fourCells.cellAt ⟨0, by decide⟩).chebyshev (Grid.fourCells.cellAt ⟨3, by decide⟩) ≤
        item.hops.toNat := by
  intro item
  let first : Fin Grid.fourCells.cellCount := ⟨0, by decide⟩
  let across : Fin Grid.fourCells.cellCount := ⟨3, by decide⟩
  have taken : ((fresh .fourCells).nodes first).inject "x" "" 3 = .ok relaying := by decide +kernel
  let spread : Swarm .fourCells :=
    (((fresh .fourCells).setNode first relaying).step (.tick first)).step (.lose 0)
  have carried : spread.bag[1]? =
      some ⟨⟨.loopback, 9003, 0⟩, relaying.address, relayed.text.toUTF8⟩ := by
    change ((Link.up.carry relaying.address relaying.tick.1).eraseIdx 0)[1]? = _
    rw [carry_tick_relaying]
    rfl
  have listening : spread.listener? ⟨.loopback, 9003, 0⟩ = some across := by decide +kernel
  have held : (((fresh .fourCells).run relay).nodes across).store.get? "x" = some item := by
    have handled := nodes_step_deliver true carried listening (Message.decode_information ..)
    simp only [run, relay, List.foldl_cons, List.foldl_nil]
    rw [step_inject taken, handled]
    decide +kernel
  obtain ⟨before, origin, after, energy, node, split, -, budget, near, -⟩ :=
    held_of_run (isFresh_fresh _) relay held
  have member : .inject origin "x" "" energy ∈ relay :=
    split ▸ List.mem_append_right _ List.mem_cons_self
  have only : origin = first ∧ energy = 3 := by simpa [relay] using member
  obtain ⟨rfl, rfl⟩ := only
  exact ⟨isFresh_fresh _, held, budget, near⟩

end GridDiffusion.Swarm
