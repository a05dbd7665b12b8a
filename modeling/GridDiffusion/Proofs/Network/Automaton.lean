import GridDiffusion.Proofs.Message.Size
import GridDiffusion.Proofs.Network.Round
/-! A round as one step of a cellular automaton: an item with energy to spare stays and decays, and
an id that is free by then is taken by the copy of the first neighbor that passes it on. -/
namespace GridDiffusion.Network

variable {network : Network} {source cell : Coord} {id : String} {item copy : Item}

/-- A neighbor that passes an item on to a cell in a round: it holds the item with energy to spare,
the link between them is open, and the message that carries the item fits a datagram. -/
structure Passes (network : Network) (source target : Coord) (id : String) (item : Item) : Prop where
  near : source ∈ network.grid.mooreNeighbors target
  uncut : network.isCut source target = false
  held : network.held? source id = some item
  charged : 2 ≤ item.energy.toNat
  fits : (Message.information source.peerId (item.parcel id)).Fits

theorem contains_of_held? (held : network.held? cell id = some item) :
    network.grid.contains cell = true := by
  obtain ⟨node, found, -⟩ := Option.bind_eq_some_iff.mp held
  exact contains_of_node? found

theorem passed?_eq_some_iff_passes : network.passed? source cell id = some copy ↔
    ∃ item, network.Passes source cell id item ∧
      (item.parcel id).arrival? source.peerId = some copy := by
  rw [passed?_eq_some_iff]
  constructor
  · intro given
    obtain ⟨step, uncut, item, held, fits, arrived⟩ := given
    have charged := Item.exists_arrival_parcel_iff.mp ⟨copy, arrived⟩
    have near := Grid.mem_mooreNeighbors.mpr ⟨contains_of_held? held, Coord.areNeighbors_comm.mp step⟩
    exact ⟨item, ⟨near, uncut, held, charged, fits⟩, arrived⟩
  · intro given
    obtain ⟨item, passes, arrived⟩ := given
    have step := Coord.areNeighbors_comm.mp (Grid.mem_mooreNeighbors.mp passes.near).2
    exact ⟨step, passes.uncut, item, passes.held, passes.fits, arrived⟩

theorem Passes.exists_passed (passes : network.Passes source cell id item) :
    ∃ copy, network.passed? source cell id = some copy := by
  obtain ⟨copy, arrived⟩ := Item.exists_arrival_parcel_iff.mpr passes.charged
  exact ⟨copy, passed?_eq_some_iff_passes.mpr ⟨item, passes, arrived⟩⟩

theorem Passes.exists_first (passes : network.Passes source cell id item) :
    ∃ copy, network.firstPassed? cell id = some copy := by
  obtain ⟨copy, passed⟩ := passes.exists_passed
  obtain ⟨place, found⟩ := Grid.exists_place (contains_of_held? passes.held)
  refine Option.isSome_iff_exists.1 (List.findSome?_isSome_iff.mpr ?_)
  refine ⟨place, List.mem_finRange place, ?_⟩
  rw [Grid.cellAt_of_place? found, passed]
  rfl

/-- What passes first comes from the first cell, row by row, that passes something on. -/
theorem passes_of_firstPassed? (first : network.firstPassed? cell id = some copy) :
    ∃ source item, network.Passes source cell id item ∧
      (∀ other otherItem, network.Passes other cell id otherItem → source.Precedes other) ∧
        (item.parcel id).arrival? source.peerId = some copy := by
  obtain ⟨before, place, after, split, passed, none⟩ := List.findSome?_eq_some_iff.mp first
  obtain ⟨item, passing, arrived⟩ := passed?_eq_some_iff_passes.mp passed
  refine ⟨_, item, passing, fun other otherItem passes => ?_, arrived⟩
  obtain ⟨seat, found⟩ := Grid.exists_place (contains_of_held? passes.held)
  have listed : seat ∈ before ++ place :: after := split ▸ List.mem_finRange seat
  have seated := Grid.cellAt_of_place? found
  have ordered : (before ++ place :: after).Pairwise (· < ·) :=
    split ▸ List.pairwise_lt_finRange network.grid.cellCount
  have later : place ≤ seat := by
    rcases List.mem_append.mp listed with early | rest
    · obtain ⟨copy, some⟩ := passes.exists_passed
      rw [← seated, none seat early] at some
      cases some
    · obtain ⟨-, tail, -⟩ := List.pairwise_append.mp ordered
      rcases List.mem_cons.mp rest with same | late
      · exact Fin.le_of_eq same.symm
      · exact Fin.le_of_lt ((List.pairwise_cons.mp tail).1 seat late)
  rw [← seated]
  exact Grid.precedes_cellAt later

theorem exists_firstPassed_iff : (∃ copy, network.firstPassed? cell id = some copy) ↔
    ∃ source item, network.Passes source cell id item := by
  constructor
  · intro first
    obtain ⟨copy, first⟩ := first
    obtain ⟨source, item, passes, -⟩ := passes_of_firstPassed? first
    exact ⟨source, item, passes⟩
  · intro passing
    obtain ⟨source, item, passes⟩ := passing
    exact passes.exists_first

/-- A round with nothing in flight is one step of all cells at once. A dead cell holds nothing. An
item with energy to spare stays, whatever arrives. Elsewhere the cell holds the id if and only if
some neighbor passes it on, and then in the copy of the neighbor that comes first row by row. -/
theorem runRound_step (reached : network.Reachable) (quiet : network.inFlight = []) {node : Node}
    (found : network.node? cell = some node) (id : String) :
    ∃ next, network.runRound.node? cell = some next ∧ next.alive = node.alive ∧
      next.generation = (if node.alive then node.generation + 1 else node.generation) ∧
      (node.alive = false → next.store.get? id = none) ∧
      (node.alive = true → ∀ item, node.store.get? id = some item → 2 ≤ item.energy.toNat →
        ∃ kept, next.store.get? id = some kept ∧ kept.content = item.content ∧
          kept.energy.toNat = item.energy.toNat - 1 ∧ kept.hops = item.hops ∧
            kept.provenance = item.provenance) ∧
      (node.alive = true → (∀ item, node.store.get? id = some item → item.energy.toNat = 1) →
        ((∃ copy, next.store.get? id = some copy) ↔
          ∃ source item, network.Passes source cell id item) ∧
        ∀ copy, next.store.get? id = some copy → ∃ source item,
          network.Passes source cell id item ∧
          (∀ other otherItem, network.Passes other cell id otherItem → source.Precedes other) ∧
          copy.content = item.content ∧
          copy.energy.toNat = min item.energy.toNat (2 ^ 63 - 1) - 1 ∧
          copy.hops.toNat = min (item.hops.toNat + 1) (2 ^ 64 - 1) ∧
          copy.provenance = .peer source.peerId) := by
  have sound := reached.wellFormed
  obtain ⟨next, after, ifDead, ifAlive⟩ := round_cases sound quiet found
  refine ⟨next, after, ?_⟩
  rcases Bool.eq_false_or_eq_true node.alive with alive | dead
  · obtain ⟨stays, counted, holds⟩ := ifAlive alive
    refine ⟨stays.trans alive.symm, ?_, fun dead => absurd (alive.symm.trans dead) nofun,
      fun _ item held charged => ?_, fun _ free => ?_⟩
    · rw [if_pos alive]
      exact counted
    · cases decayed : item.decayed? with
      | none =>
        have last := Item.decayed?_eq_none_iff.mp decayed
        omega
      | some kept =>
        obtain ⟨content, energy, hops, provenance⟩ := Item.decayed?_eq_some_iff.mp decayed
        refine ⟨kept, ?_, content, by omega, hops, provenance⟩
        rw [holds, held, Option.bind_some, decayed, Option.some_or]
    · have gone : (node.store.get? id).bind Item.decayed? = none := by
        cases held : node.store.get? id with
        | none => rfl
        | some item => exact Item.decayed?_eq_none_iff.mpr (free item held)
      rw [holds, gone, Option.none_or]
      refine ⟨exists_firstPassed_iff, fun copy first => ?_⟩
      obtain ⟨source, item, passes, least, arrived⟩ := passes_of_firstPassed? first
      obtain ⟨content, energy, hops, provenance⟩ := Item.arrival?_parcel_eq_some_iff.mp arrived
      exact ⟨source, item, passes, least, content, by omega, hops, provenance⟩
  · obtain rfl := ifDead dead
    have empty := (sound.livesAt found).emptyIfDead dead
    refine ⟨rfl, ?_, fun _ => ?_, fun alive => absurd (alive.symm.trans dead) nofun,
      fun alive => absurd (alive.symm.trans dead) nofun⟩
    · rw [dead]
      rfl
    · rw [empty]
      rfl

/-- An item of one corner is passed on to the opposite corner of a grid of four cells. -/
theorem runRound_step_corner : ∃ network : Network, network.Reachable ∧ network.inFlight = [] ∧
    ∃ node next copy, network.node? ⟨1, 1⟩ = some node ∧ network.runRound.node? ⟨1, 1⟩ = some next ∧
      next.store.get? "x" = some copy ∧ copy.energy.toNat = 2 ∧ copy.provenance = .peer "node_0_0" := by
  have start : (fresh .fourCells).Reachable := reachable_fresh rfl (by decide)
  obtain ⟨item, content, energy, -, -, held, alive, same, flying⟩ :=
    perform_localInject (isAlive_fresh (by decide)) (held?_fresh .fourCells ⟨0, 0⟩ "x")
      (by decide : (3 : UInt64) ≠ 0) ""
  obtain ⟨node, found, up⟩ := isAlive_iff.mp ((alive ⟨1, 1⟩).trans (isAlive_fresh (by decide)))
  have unheld : node.store.get? "x" = none := by
    have there := held ⟨1, 1⟩ "x"
    rw [held?, found, Option.bind_some, if_neg (by decide), held?_fresh] at there
    exact there
  have amount : item.energy.toNat = 3 := energy ▸ rfl
  have short : "x".utf8ByteSize + item.content.utf8ByteSize ≤ 10000 := content ▸ by decide
  have passes : Passes _ ⟨0, 0⟩ ⟨1, 1⟩ "x" item :=
    { near := same.grid ▸ by decide
      uncut := isCut_of_nil same.cutLinks
      held := (held ⟨0, 0⟩ "x").trans (if_pos ⟨rfl, rfl⟩)
      charged := by omega
      fits := Message.fits_of_cell ⟨0, 0⟩ short }
  obtain ⟨next, after, -, -, -, -, free⟩ := runRound_step (start.perform _) flying found "x"
  obtain ⟨taken, origin⟩ := free up (by simp [unheld])
  obtain ⟨copy, here⟩ := taken.2 ⟨_, _, passes⟩
  obtain ⟨source, sourceItem, passing, -, -, left, -, from_⟩ := origin copy here
  have only := (held source "x").symm.trans passing.held
  split at only
  next corner =>
    obtain rfl := Option.some.inj only
    refine ⟨_, start.perform _, flying, node, next, copy, found, after, here, by omega, ?_⟩
    rw [from_, corner.1]
    rfl
  · rw [held?_fresh] at only
    cases only

end GridDiffusion.Network
