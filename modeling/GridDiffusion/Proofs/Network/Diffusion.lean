import GridDiffusion.Proofs.Network.Automaton
import GridDiffusion.Proofs.Network.LinkGraph
/-! Diffusion in rounds is breadth-first search: an injected item gets one layer of the graph of
open links further in each round, for as long as its energy lasts. -/
namespace GridDiffusion.Network

variable {start after : Network} {origin cell : Coord} {id content : String} {item copy : Item}
  {total spent : Nat}

/-- A copy some rounds after the injection: a node of the tree of shortest paths from the origin. -/
structure TreeCopy (network : Network) (origin : Coord) (content : String) (total spent : Nat)
    (cell : Coord) (item : Item) : Prop where
  content : item.content = content
  energy : item.energy.toNat + spent = total
  hops : network.linkGraph.edist origin cell = item.hops.toNat
  recent : item.hops.toNat ≤ spent
  root : cell = origin → item.provenance = .self
  parent : cell ≠ origin → ∃ near, network.linkGraph.Adj near cell ∧
    network.linkGraph.edist origin near + 1 = network.linkGraph.edist origin cell ∧
      item.provenance = .peer near.peerId

/-- The network some rounds after an injection: its copies are exactly those that breadth-first
search from the origin has reached by then. -/
structure Diffused (start after : Network) (origin : Coord) (id content : String)
    (total spent : Nat) : Prop where
  sound : after.WellFormed
  quiet : after.inFlight = []
  setting : SameSetting start after
  alive (cell : Coord) : after.isAlive cell = start.isAlive cell
  copy {cell : Coord} {item : Item} : after.held? cell id = some item →
    start.TreeCopy origin content total spent cell item
  filled {cell : Coord} : spent < total → start.linkGraph.edist origin cell ≤ spent →
    ∃ item, after.held? cell id = some item

theorem TreeCopy.decayed (old : start.TreeCopy origin content total spent cell item)
    (decayed : item.decayed? = some copy) :
    start.TreeCopy origin content total (spent + 1) cell copy := by
  obtain ⟨sameContent, less, sameHops, sameProvenance⟩ := Item.decayed?_eq_some_iff.mp decayed
  have energy := old.energy
  exact
    { content := sameContent.trans old.content
      energy := by omega
      hops := sameHops ▸ old.hops
      recent := sameHops ▸ Nat.le_succ_of_le old.recent
      root := fun here => sameProvenance.trans (old.root here)
      parent := fun away => sameProvenance ▸ old.parent away }

theorem TreeCopy.passed {source : Coord}
    (old : start.TreeCopy origin content total spent source item) (bounded : total ≤ 2 ^ 63 - 1)
    (link : start.linkGraph.Adj source cell) (new : ¬ start.linkGraph.edist origin cell ≤ spent)
    (arrived : (item.parcel id).arrival? source.peerId = some copy) :
    start.TreeCopy origin content total (spent + 1) cell copy := by
  obtain ⟨sameContent, less, more, from_⟩ := Item.arrival?_parcel_eq_some_iff.mp arrived
  have energy := old.energy
  have recent := old.recent
  have next : start.linkGraph.edist origin cell ≤ (item.hops.toNat + 1 : Nat) :=
    edist_le_succ_iff.mpr (.inr ⟨source, link, old.hops.le⟩)
  have layer : item.hops.toNat = spent := by
    refine Nat.le_antisymm recent (Nat.le_of_not_lt fun early => new (next.trans ?_))
    exact ENat.natCast_le_natCast.mpr early
  have distance : start.linkGraph.edist origin cell = (spent + 1 : Nat) :=
    edist_eq_succ (layer ▸ next) new
  have hops : copy.hops.toNat = spent + 1 := by omega
  exact
    { content := sameContent.trans old.content
      energy := by omega
      hops := hops ▸ distance
      recent := hops.le
      root := by
        rintro rfl
        rw [SimpleGraph.edist_self] at new
        exact absurd zero_le new
      parent := fun _ => ⟨source, link, by rw [old.hops, distance, layer]; norm_cast, from_⟩ }

/-- Whether every message that carries an item with at most this energy and these hops from a cell
of the grid fits a datagram. -/
def FitsUpTo (network : Network) (id content : String) (total : Nat) : Prop :=
  ∀ (cell : Coord) (energy : Int64) (hops : UInt64), network.grid.contains cell = true →
    1 ≤ energy.toInt → energy.toInt ≤ total → hops.toNat ≤ total →
      (Message.information cell.peerId { id, content, energy, hops }).Fits

/-- Whether every message in which an item with this energy travels from its origin fits a datagram:
from each cell with as many hops as it lies away, and with no more energy than these leave. -/
def FitsOnItsWay (network : Network) (origin : Coord) (id content : String) (total : Nat) : Prop :=
  ∀ (cell : Coord) (energy : Int64) (hops : UInt64), network.grid.contains cell = true →
    network.linkGraph.edist origin cell = hops.toNat → 1 ≤ energy.toInt →
      energy.toInt + hops.toNat ≤ total →
        (Message.information cell.peerId { id, content, energy, hops }).Fits

theorem FitsUpTo.onItsWay (fits : start.FitsUpTo id content total) (origin : Coord) :
    start.FitsOnItsWay origin id content total := by
  intro cell energy hops onGrid _ positive within
  exact fits cell energy hops onGrid positive (by omega) (by omega)

theorem Diffused.fits_parcel (state : Diffused start after origin id content total spent)
    (bounded : total ≤ 2 ^ 63 - 1) (fits : start.FitsOnItsWay origin id content total)
    (held : after.held? cell id = some item) :
    (Message.information cell.peerId (item.parcel id)).Fits := by
  have old := state.copy held
  have energy := old.energy
  have recent := old.recent
  have positive := item.energy_pos
  have onGrid := contains_of_held? held
  have amount := toInt_wireEnergy item.energy
  have parcel : item.parcel id =
      { id, content, energy := wireEnergy item.energy, hops := item.hops } := by
    rw [Item.parcel, old.content]
  exact parcel ▸ fits cell _ _ (state.setting.grid ▸ onGrid) old.hops (by omega) (by omega)

theorem Diffused.passes {source : Coord} (state : Diffused start after origin id content total spent)
    (bounded : total ≤ 2 ^ 63 - 1) (fits : start.FitsOnItsWay origin id content total)
    (link : start.linkGraph.Adj source cell) (held : after.held? source id = some item)
    (left : spent + 1 < total) : after.Passes source cell id item := by
  obtain ⟨-, -, step, uncut, -⟩ := link
  have energy := (state.copy held).energy
  exact
    { near := Grid.mem_mooreNeighbors.mpr ⟨contains_of_held? held, Coord.areNeighbors_comm.mp step⟩
      uncut := (isCut_of_sameSetting state.setting source cell).trans uncut
      held := held
      charged := by omega
      fits := state.fits_parcel bounded fits held }

theorem TreeCopy.exists_decayed (old : start.TreeCopy origin content total spent cell item)
    (left : spent + 1 < total) : ∃ next, item.decayed? = some next := by
  have energy := old.energy
  apply Option.ne_none_iff_exists'.mp
  intro gone
  have last := Item.decayed?_eq_none_iff.mp gone
  omega

/-- After a round a copy is an older one that decayed, or one that was passed to a cell beyond the
layers before: a cell within them still holds its own. -/
theorem Diffused.copy_runRound (state : Diffused start after origin id content total spent)
    (ordered : start.WellFormed) (bounded : total ≤ 2 ^ 63 - 1)
    (held : after.runRound.held? cell id = some copy) :
    start.TreeCopy origin content total (spent + 1) cell copy := by
  have alive := state.sound.runRound.isAlive_of_held? held
  rw [isAlive_runRound state.sound state.quiet] at alive
  rw [held?_runRound state.sound state.quiet alive] at held
  rcases Option.or_eq_some_iff.mp held with older | ⟨gone, first⟩
  · obtain ⟨item, before, decayed⟩ := Option.bind_eq_some_iff.mp older
    exact (state.copy before).decayed decayed
  · obtain ⟨source, item, passes, -, arrived⟩ := passes_of_firstPassed? first
    have old := state.copy passes.held
    have energy := old.energy
    have charged := passes.charged
    have step := Coord.areNeighbors_comm.mp (Grid.mem_mooreNeighbors.mp passes.near).2
    have link : start.linkGraph.Adj source cell := by
      refine ordered.adj_iff.mpr ⟨?_, state.alive cell ▸ alive, step, ?_⟩
      · exact state.alive source ▸ state.sound.isAlive_of_held? passes.held
      · exact (isCut_of_sameSetting state.setting source cell).symm.trans passes.uncut
    have beyond : ¬ start.linkGraph.edist origin cell ≤ spent := by
      intro within
      obtain ⟨own, before⟩ := state.filled (by omega) within
      obtain ⟨next, decayed⟩ := (state.copy before).exists_decayed (by omega)
      rw [before, Option.bind_some, decayed] at gone
      cases gone
    exact old.passed bounded link beyond arrived

theorem Diffused.filled_runRound (state : Diffused start after origin id content total spent)
    (bounded : total ≤ 2 ^ 63 - 1) (fits : start.FitsOnItsWay origin id content total)
    (left : spent + 1 < total) (within : start.linkGraph.edist origin cell ≤ (spent + 1 : Nat)) :
    ∃ item, after.runRound.held? cell id = some item := by
  rcases edist_le_succ_iff.mp within with inner | ⟨near, link, close⟩
  · obtain ⟨item, before⟩ := state.filled (by omega) inner
    obtain ⟨next, decayed⟩ := (state.copy before).exists_decayed left
    have alive := state.sound.isAlive_of_held? before
    refine ⟨next, ?_⟩
    rw [held?_runRound state.sound state.quiet alive, before, Option.bind_some, decayed,
      Option.some_or]
  · obtain ⟨item, before⟩ := state.filled (by omega) close
    obtain ⟨copy, first⟩ := (state.passes bounded fits link before left).exists_first
    have alive := (state.alive cell).trans link.2.1
    rw [held?_runRound state.sound state.quiet alive, first]
    cases (after.held? cell id).bind Item.decayed? with
    | none => exact ⟨copy, rfl⟩
    | some older => exact ⟨older, rfl⟩

/-- One round: every copy decays, and the next layer gets copies of its own while energy is left. -/
theorem Diffused.runRound (state : Diffused start after origin id content total spent)
    (ordered : start.WellFormed) (bounded : total ≤ 2 ^ 63 - 1)
    (fits : start.FitsOnItsWay origin id content total) :
    Diffused start after.runRound origin id content total (spent + 1) where
  sound := state.sound.runRound
  quiet := after.inFlight_runRound
  setting := state.setting.trans after.sameSetting_runRound
  alive cell := (isAlive_runRound state.sound state.quiet cell).trans (state.alive cell)
  copy held := state.copy_runRound ordered bounded held
  filled left within := state.filled_runRound bounded fits left within

theorem runRounds_succ (network : Network) (rounds : Nat) :
    network.runRounds (rounds + 1) = (network.runRounds rounds).runRound := by
  induction rounds generalizing network with
  | zero => rfl
  | succ rounds ih => exact ih network.runRound

/-- The rounds of a run are the layers of the search. -/
theorem Diffused.runRounds (state : Diffused start after origin id content total 0)
    (ordered : start.WellFormed) (bounded : total ≤ 2 ^ 63 - 1)
    (fits : start.FitsOnItsWay origin id content total) (rounds : Nat) :
    Diffused start (after.runRounds rounds) origin id content total rounds := by
  induction rounds with
  | zero => exact state
  | succ rounds ih =>
    rw [runRounds_succ]
    exact ih.runRound ordered bounded fits

theorem diffused_localInject (ordered : start.WellFormed) (quiet : start.inFlight = [])
    (alive : start.isAlive origin = true) (unheld : ∀ cell, start.held? cell id = none)
    {energy : UInt64} (charged : energy ≠ 0) (content : String) :
    Diffused start (start.perform (.localInject origin id content energy)) origin id content
      energy.toNat 0 := by
  obtain ⟨item, sameContent, amount, hops, own, held, same, setting, flying⟩ :=
    perform_localInject alive (unheld origin) charged content
  refine
    { sound := ordered.perform _
      quiet := flying.trans quiet
      setting := setting
      alive := same
      copy := fun {cell copy} found => ?_
      filled := fun {cell} _ within => ?_ }
  · rw [held] at found
    split at found
    next here =>
      obtain ⟨rfl, -⟩ := here
      obtain rfl := Option.some.inj found
      exact
        { content := sameContent
          energy := by rw [amount, Nat.add_zero]
          hops := by rw [SimpleGraph.edist_self, hops]; rfl
          recent := by rw [hops]; exact Nat.le_refl 0
          root := fun _ => own
          parent := fun away => absurd rfl away }
    · rw [unheld] at found
      cases found
  · have here : origin = cell := SimpleGraph.edist_eq_zero_iff.mp (nonpos_iff_eq_zero.mp within)
    exact ⟨item, (held cell id).trans (if_pos ⟨here.symm, rfl⟩)⟩

/-- Rounds after an injection are breadth-first search with a time to live. A cell holds the item if
and only if energy is left and an open path from the origin is no longer than the rounds. Every copy
tells the energy that is left and the length of a shortest path in its hops, and its provenance is
the cell before it on such a path. Where nothing fails, that length is the distance in king's steps.
-/
theorem runRounds_localInject {network : Network} (reached : network.Reachable)
    (quiet : network.inFlight = []) (alive : network.isAlive origin = true)
    (unheld : ∀ cell, network.held? cell id = none) {energy : UInt64} (positive : 1 ≤ energy.toNat)
    (bounded : energy.toNat ≤ 2 ^ 63 - 1) (fits : network.FitsUpTo id content energy.toNat)
    (rounds : Nat) :
    (∀ cell, (∃ item, ((network.perform (.localInject origin id content energy)).runRounds
        rounds).held? cell id = some item) ↔
      rounds < energy.toNat ∧ network.linkGraph.edist origin cell ≤ rounds) ∧
    (∀ cell item, ((network.perform (.localInject origin id content energy)).runRounds
        rounds).held? cell id = some item →
      item.content = content ∧ item.energy.toNat = energy.toNat - rounds ∧
        network.linkGraph.edist origin cell = item.hops.toNat ∧
        (cell = origin → item.provenance = .self) ∧
        (cell ≠ origin → ∃ near, network.linkGraph.Adj near cell ∧
          network.linkGraph.edist origin near + 1 = network.linkGraph.edist origin cell ∧
            item.provenance = .peer near.peerId)) ∧
    ((∀ cell, network.grid.contains cell = true → network.isAlive cell = true) →
      (∀ left right, network.isCut left right = false) →
      ∀ cell, network.grid.contains cell = true →
        network.linkGraph.edist origin cell = origin.chebyshev cell) := by
  have ordered := reached.wellFormed
  have charged := ne_zero_of_one_le_toNat positive
  have state := (diffused_localInject ordered quiet alive unheld charged content).runRounds ordered
    bounded (fits.onItsWay origin) rounds
  refine ⟨fun cell => ⟨?_, ?_⟩, fun cell item held => ?_, fun allAlive uncut cell goal => ?_⟩
  · intro holds
    obtain ⟨item, held⟩ := holds
    have tree := state.copy held
    have left := tree.energy
    have some_ := item.energy_pos
    refine ⟨by omega, ?_⟩
    rw [tree.hops]
    exact ENat.natCast_le_natCast.mpr tree.recent
  · intro reached
    obtain ⟨left, within⟩ := reached
    exact state.filled left within
  · have tree := state.copy held
    have left := tree.energy
    exact ⟨tree.content, by omega, tree.hops, tree.root, tree.parent⟩
  · obtain ⟨node, found, -⟩ := isAlive_iff.mp alive
    exact edist_eq_chebyshev allAlive uncut (contains_of_node? found) goal

/-- Two rounds after the injection of three units of energy the opposite corner of a grid of four
cells holds the item, one hop away and with one unit left. -/
theorem runRounds_localInject_corner :
    ∃ item, (((fresh .fourCells).perform (.localInject ⟨0, 0⟩ "x" "" 3)).runRounds 2).held? ⟨1, 1⟩
      "x" = some item ∧ item.energy.toNat = 1 ∧ item.hops.toNat = 1 := by
  have alive : (fresh .fourCells).isAlive ⟨0, 0⟩ = true := isAlive_fresh (by decide)
  have short : "x".utf8ByteSize + "".utf8ByteSize ≤ 10000 := by decide
  have fits : (fresh .fourCells).FitsUpTo "x" "" (3 : UInt64).toNat :=
    fun cell _ _ _ _ _ _ => Message.fits_of_cell cell short
  obtain ⟨holds, copies, whole⟩ := runRounds_localInject (reachable_fresh rfl (by decide)) rfl alive
    (fun cell => held?_fresh .fourCells cell "x") (by decide : 1 ≤ (3 : UInt64).toNat) (by decide)
    fits 2
  have distance := whole (fun cell inside => isAlive_fresh inside) (fun _ _ => isCut_of_nil rfl)
    ⟨1, 1⟩ (by decide)
  have king : Coord.chebyshev ⟨0, 0⟩ ⟨1, 1⟩ = 1 := by decide
  rw [king] at distance
  obtain ⟨item, held⟩ := (holds ⟨1, 1⟩).2
    ⟨by decide, distance.le.trans (ENat.natCast_le_natCast.mpr (by decide))⟩
  obtain ⟨-, left, hops, -⟩ := copies ⟨1, 1⟩ item held
  exact ⟨item, held, left, ENat.natCast_inj.mp (hops.symm.trans distance)⟩

end GridDiffusion.Network
