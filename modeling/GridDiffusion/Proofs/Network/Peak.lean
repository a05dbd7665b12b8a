import Mathlib.Data.List.MinMax
import Mathlib.Order.Nat
import GridDiffusion.Proofs.Network.Automaton
/-! The largest energy that is held anywhere. Each round takes one unit of it, so it tells after how
many rounds nothing is held any more. -/
namespace GridDiffusion.Network

variable {network : Network} {cell : Coord} {id : String} {item : Item}

theorem held?_eq_some_iff : network.held? cell id = some item ↔
    ∃ node, network.node? cell = some node ∧ (id, item) ∈ node.store.entries := by
  simp only [held?, Option.bind_eq_some_iff, SortedMap.get?_eq_some_iff]

/-- The energies of all held items, counted once at every node that holds them. -/
def energies (network : Network) : List Nat :=
  network.nodes.toList.flatMap fun node => node.store.values.map fun item => item.energy.toNat

def peak (network : Network) : Nat := network.energies.foldr max 0

theorem mem_energies_iff {amount : Nat} : amount ∈ network.energies ↔
    ∃ cell id item, network.held? cell id = some item ∧ item.energy.toNat = amount := by
  simp only [energies, List.mem_flatMap, mem_nodes_iff, SortedMap.values, List.mem_map, Prod.exists,
    held?_eq_some_iff]
  constructor
  · intro listed
    obtain ⟨node, ⟨cell, found⟩, _, ⟨id, item, entry, rfl⟩, same⟩ := listed
    exact ⟨cell, id, item, ⟨node, found, entry⟩, same⟩
  · intro holds
    obtain ⟨cell, id, item, ⟨node, found, entry⟩, same⟩ := holds
    exact ⟨node, ⟨cell, found⟩, item, ⟨id, item, entry, rfl⟩, same⟩

theorem energy_le_peak (held : network.held? cell id = some item) :
    item.energy.toNat ≤ network.peak :=
  List.le_max_of_le (mem_energies_iff.mpr ⟨cell, id, item, held, rfl⟩) (Nat.le_refl _)

theorem peak_le {bound : Nat} (each : ∀ cell id item, network.held? cell id = some item →
    item.energy.toNat ≤ bound) : network.peak ≤ bound := by
  apply List.max_le_of_forall_le
  intro amount listed
  obtain ⟨cell, id, item, held, rfl⟩ := mem_energies_iff.mp listed
  exact each cell id item held

theorem exists_peak (positive : network.peak ≠ 0) :
    ∃ cell id item, network.held? cell id = some item ∧ item.energy.toNat = network.peak := by
  have nonempty : network.energies ≠ [] := by
    intro empty
    rw [peak, empty] at positive
    exact positive rfl
  exact mem_energies_iff.mp (List.maximum_mem (List.foldr_max_of_ne_nil nonempty).symm)

theorem isQuiet_iff : network.isQuiet = true ↔ ∀ cell id, network.held? cell id = none := by
  rw [isQuiet, List.all_eq_true]
  constructor
  · intro quiet cell id
    apply Option.eq_none_iff_forall_not_mem.mpr
    intro item held
    obtain ⟨node, found, entry⟩ := held?_eq_some_iff.mp held
    have empty : node.store.entries = [] :=
      List.isEmpty_iff.mp (quiet node (mem_nodes_iff.mpr ⟨cell, found⟩))
    rw [empty] at entry
    cases entry
  · intro unheld node listed
    obtain ⟨cell, found⟩ := mem_nodes_iff.mp listed
    apply List.isEmpty_iff.mpr
    apply List.eq_nil_iff_forall_not_mem.mpr
    intro entry member
    have held := held?_eq_some_iff.mpr ⟨node, found, member⟩
    cases (unheld cell entry.1).symm.trans held

/-- A network is quiet if and only if the largest energy is zero. -/
theorem isQuiet_iff_peak : network.isQuiet = true ↔ network.peak = 0 := by
  rw [isQuiet_iff]
  constructor
  · intro unheld
    apply Nat.le_zero.mp
    apply peak_le
    intro cell id item held
    cases (unheld cell id).symm.trans held
  · intro zero cell id
    apply Option.eq_none_iff_forall_not_mem.mpr
    intro item held
    have below := energy_le_peak held
    have positive := item.energy_pos
    omega

/-- A round takes one unit off the largest energy. The strongest item stays and decays, and what a
neighbor passes on has spent a unit as well, so no copy outdoes it. -/
theorem peak_runRound (sound : network.WellFormed) (flying : network.inFlight = []) :
    network.runRound.peak = network.peak - 1 := by
  apply Nat.le_antisymm
  · apply peak_le
    intro cell id copy held
    rcases held_of_runRound sound held with ⟨item, before, decayed⟩ | ⟨packet, member, -⟩ |
      ⟨source, passed⟩
    · have below := energy_le_peak before
      have less := (Item.decayed?_eq_some_iff.mp decayed).2.1
      omega
    · rw [flying] at member
      cases member
    · obtain ⟨-, -, item, before, -, arrived⟩ := passed?_eq_some_iff.mp passed
      have below := energy_le_peak before
      have less := (Item.arrival?_parcel_eq_some_iff.mp arrived).2.1
      omega
  · rcases Nat.lt_or_ge 1 network.peak with more | last
    · obtain ⟨cell, id, item, before, most⟩ := exists_peak (Nat.ne_zero_of_lt more)
      cases decayed : item.decayed? with
      | none =>
        have one := Item.decayed?_eq_none_iff.mp decayed
        omega
      | some next =>
        have alive := sound.isAlive_of_held? before
        have held : network.runRound.held? cell id = some next := by
          rw [held?_runRound sound flying alive, before, Option.bind_some, decayed, Option.some_or]
        have below := energy_le_peak held
        have less := (Item.decayed?_eq_some_iff.mp decayed).2.1
        omega
    · omega

theorem peak_runRounds (sound : network.WellFormed) (flying : network.inFlight = [])
    (rounds : Nat) : (network.runRounds rounds).peak = network.peak - rounds := by
  induction rounds generalizing network with
  | zero => rfl
  | succ rounds ih =>
    calc (network.runRounds (rounds + 1)).peak
      _ = network.runRound.peak - rounds := ih sound.runRound network.inFlight_runRound
      _ = network.peak - 1 - rounds := by rw [peak_runRound sound flying]
      _ = network.peak - (rounds + 1) := by omega

section Until
variable {done : Network → Bool} {limit first : Nat}

theorem go_of_first {round : Nat} (within : first < limit)
    (holds : done (network.runRounds (first + 1)) = true)
    (before : ∀ earlier < first, done (network.runRounds (earlier + 1)) = false) :
    runUntil.go done limit round network =
      (some (round + first), network.runRounds (first + 1)) := by
  induction first generalizing network limit round with
  | zero =>
    obtain ⟨left, rfl⟩ := Nat.exists_eq_add_of_lt within
    rw [Nat.zero_add, runUntil.go]
    exact if_pos holds
  | succ first ih =>
    obtain ⟨left, rfl⟩ := Nat.exists_eq_add_of_lt within
    have start : done network.runRound = false := before 0 (Nat.succ_pos first)
    have later : runUntil.go done (first + 1 + left) (round + 1) network.runRound =
        (some (round + 1 + first), network.runRound.runRounds (first + 1)) :=
      ih (by omega) holds fun earlier early => before (earlier + 1) (by omega)
    rw [runUntil.go]
    simp only [start, Bool.false_eq_true, if_false]
    rw [later, Nat.add_assoc, Nat.add_comm 1]
    rfl

theorem go_of_none {round : Nat}
    (never : ∀ earlier < limit, done (network.runRounds (earlier + 1)) = false) :
    runUntil.go done limit round network = (none, network.runRounds limit) := by
  induction limit generalizing network round with
  | zero => rfl
  | succ left ih =>
    have start : done network.runRound = false := never 0 (Nat.succ_pos left)
    rw [runUntil.go]
    simp only [start, Bool.false_eq_true, if_false]
    exact ih fun earlier early => never (earlier + 1) (by omega)

/-- Running stops after the first round after which the condition holds. -/
theorem runUntil_of_first (positive : 1 ≤ first) (within : first ≤ limit)
    (holds : done (network.runRounds first) = true)
    (before : ∀ earlier, 1 ≤ earlier → earlier < first →
      done (network.runRounds earlier) = false) :
    network.runUntil limit done = (some first, network.runRounds first) := by
  obtain ⟨rest, rfl⟩ := Nat.exists_eq_add_of_le' positive
  rw [runUntil, go_of_first within holds fun earlier early => before _ (by omega) (by omega),
    Nat.add_comm]

theorem runUntil_of_none (never : ∀ earlier, 1 ≤ earlier → earlier ≤ limit →
    done (network.runRounds earlier) = false) :
    network.runUntil limit done = (none, network.runRounds limit) :=
  go_of_none fun earlier early => never _ (by omega) (by omega)

end Until

/-- The largest energy that is held falls by one with each round. So a network is quiet as soon as
there were as many rounds as it had energy, and running until it is quiet takes just these rounds,
but at least one, unless the limit comes first. -/
theorem runUntil_isQuiet (reached : network.Reachable) (flying : network.inFlight = []) :
    (∀ rounds, (network.runRounds rounds).peak = network.peak - rounds) ∧
    (∀ rounds, (network.runRounds rounds).isQuiet = true ↔ network.peak ≤ rounds) ∧
    ∀ limit, network.runUntil limit isQuiet =
      if max 1 network.peak ≤ limit then
        (some (max 1 network.peak), network.runRounds (max 1 network.peak))
      else (none, network.runRounds limit) := by
  have falls := peak_runRounds reached.wellFormed flying
  have quiet (rounds : Nat) : (network.runRounds rounds).isQuiet = true ↔
      network.peak ≤ rounds := by
    rw [isQuiet_iff_peak, falls]
    omega
  refine ⟨falls, quiet, fun limit => ?_⟩
  split
  next within =>
    apply runUntil_of_first (Nat.le_max_left ..) within ((quiet _).mpr (Nat.le_max_right ..))
    intro earlier positive early
    apply Bool.eq_false_iff.mpr
    intro holds
    have enough := (quiet earlier).mp holds
    omega
  next beyond =>
    apply runUntil_of_none
    intro earlier positive early
    apply Bool.eq_false_iff.mpr
    intro holds
    have enough := (quiet earlier).mp holds
    omega

/-- Beside an item of one unit, three units of energy keep a grid with a dead cell from being quiet
for two rounds, and it is quiet after the third. -/
theorem runUntil_isQuiet_three : ∃ network : Network, network.Reachable ∧ network.inFlight = [] ∧
    network.peak = 3 ∧ network.runUntil 5 isQuiet = (some 3, network.runRounds 3) ∧
      network.runUntil 2 isQuiet = (none, network.runRounds 2) := by
  have start : (fresh .fourCells).Reachable := reachable_fresh rfl (by decide)
  let network := (fresh .fourCells).performAll
    [.localKill ⟨1, 1⟩, .localInject ⟨0, 0⟩ "x" "" 3, .localInject ⟨0, 0⟩ "y" "" 1]
  have reached : network.Reachable := start.performAll _
  have flying : network.inFlight = [] := by decide +kernel
  have peak : network.peak = 3 := by decide +kernel
  obtain ⟨-, -, until_⟩ := runUntil_isQuiet reached flying
  refine ⟨network, reached, flying, peak, (until_ 5).trans ?_, (until_ 2).trans ?_⟩
  · rw [peak]
    exact if_pos (by decide)
  · rw [peak]
    exact if_neg (by decide)

end GridDiffusion.Network
