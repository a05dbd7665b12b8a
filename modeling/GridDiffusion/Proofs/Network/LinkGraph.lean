import Mathlib.Combinatorics.SimpleGraph.Metric
import GridDiffusion.Proofs.Network.Round
/-! The graph of open links between alive cells, and how far cells lie apart in it: layer by layer
from any cell, and in steps of a chess king where nothing fails. -/
namespace GridDiffusion

/-- The cells within one step more are those that a cell within the steps is linked to. -/
theorem edist_le_succ_iff {Vertex : Type} {graph : SimpleGraph Vertex} {origin cell : Vertex}
    {steps : Nat} : graph.edist origin cell ≤ (steps + 1 : Nat) ↔
      graph.edist origin cell ≤ steps ∨
        ∃ near, graph.Adj near cell ∧ graph.edist origin near ≤ steps := by
  constructor
  · intro within
    have reached : graph.edist origin cell ≠ ⊤ := ne_top_of_le_ne_top (ENat.natCast_ne_top _) within
    obtain ⟨walk, length⟩ := SimpleGraph.exists_walk_of_edist_ne_top reached
    have short : walk.length ≤ steps + 1 := by
      rw [← length] at within
      exact ENat.natCast_le_natCast.mp within
    cases back : walk.reverse with
    | nil =>
      left
      rw [SimpleGraph.edist_self]
      exact zero_le
    | cons step rest =>
      right
      have parts : walk.length = rest.length + 1 := by
        rw [← walk.length_reverse, back, SimpleGraph.Walk.length_cons]
      refine ⟨_, step.symm, (graph.edist_le rest.reverse).trans (ENat.natCast_le_natCast.mpr ?_)⟩
      rw [SimpleGraph.Walk.length_reverse]
      omega
  · rintro (within | ⟨near, link, within⟩)
    · exact within.trans (ENat.natCast_le_natCast.mpr (Nat.le_succ steps))
    · have last : graph.edist near cell = 1 := SimpleGraph.edist_eq_one_iff_adj.mpr link
      calc graph.edist origin cell
        _ ≤ graph.edist origin near + graph.edist near cell := graph.edist_triangle
        _ ≤ steps + 1 := last ▸ add_le_add_left within 1
        _ = (steps + 1 : Nat) := by norm_cast

theorem edist_eq_succ {Vertex : Type} {graph : SimpleGraph Vertex} {origin cell : Vertex}
    {steps : Nat} (within : graph.edist origin cell ≤ (steps + 1 : Nat))
    (beyond : ¬ graph.edist origin cell ≤ steps) : graph.edist origin cell = (steps + 1 : Nat) := by
  obtain ⟨length, same⟩ := ENat.ne_top_iff_exists.mp (ne_top_of_le_ne_top (ENat.natCast_ne_top _) within)
  rw [← same, ENat.natCast_le_natCast] at within beyond
  rw [← same, ENat.natCast_inj]
  omega

namespace Network
variable {network : Network} {origin cell near : Coord}

/-- The alive cells, linked to their neighbors wherever the link is not cut. -/
def linkGraph (network : Network) : SimpleGraph Coord where
  Adj left right := network.isAlive left = true ∧ network.isAlive right = true ∧
    left.areNeighbors right = true ∧ network.isCut left right = false ∧
      network.isCut right left = false
  symm := ⟨fun _ _ ⟨left, right, step, there, back⟩ =>
    ⟨right, left, Coord.areNeighbors_comm.mp step, back, there⟩⟩
  loopless := ⟨fun cell ⟨_, _, step, _⟩ => by simp [Coord.areNeighbors] at step⟩

theorem WellFormed.isCut_comm (sound : network.WellFormed) (left right : Coord) :
    network.isCut left right = network.isCut right left := by
  unfold isCut
  cases network.grid.addressOf left with
  | error cause => cases network.grid.addressOf right <;> rfl
  | ok first =>
    cases network.grid.addressOf right with
    | error cause => rfl
    | ok second =>
      simp only [List.contains_eq_mem, decide_eq_decide]
      exact ⟨sound.cutBoth, sound.cutBoth⟩

theorem WellFormed.adj_iff (sound : network.WellFormed) : network.linkGraph.Adj near cell ↔
    network.isAlive near = true ∧ network.isAlive cell = true ∧
      near.areNeighbors cell = true ∧ network.isCut near cell = false := by
  constructor
  · intro link
    obtain ⟨left, right, step, open_, -⟩ := link
    exact ⟨left, right, step, open_⟩
  · intro link
    obtain ⟨left, right, step, open_⟩ := link
    exact ⟨left, right, step, open_, sound.isCut_comm near cell ▸ open_⟩

theorem chebyshev_le_length (walk : network.linkGraph.Walk origin cell) :
    origin.chebyshev cell ≤ walk.length := by
  induction walk with
  | nil => rw [Coord.chebyshev_eq_zero_iff.mpr rfl]; exact Nat.zero_le _
  | cons step rest ih =>
    rename_i first second last
    have one : first.chebyshev second = 1 := Coord.areNeighbors_iff.mp step.2.2.1
    have sum := Coord.chebyshev_triangle first second last
    rw [SimpleGraph.Walk.length_cons]
    omega

/-- Where no cell is dead and no link is cut, cells lie as far apart as a king walks. -/
theorem edist_eq_chebyshev (alive : ∀ cell, network.grid.contains cell = true →
      network.isAlive cell = true)
    (uncut : ∀ left right, network.isCut left right = false)
    (start : network.grid.contains origin = true) (goal : network.grid.contains cell = true) :
    network.linkGraph.edist origin cell = origin.chebyshev cell := by
  have within (steps : Nat) : ∀ cell, network.grid.contains cell = true →
      origin.chebyshev cell = steps → network.linkGraph.edist origin cell ≤ steps := by
    induction steps with
    | zero =>
      intro cell _ here
      rw [Coord.chebyshev_eq_zero_iff.mp here, SimpleGraph.edist_self]
      exact zero_le
    | succ steps ih =>
      intro cell inside far
      have apart : origin ≠ cell := by
        intro same
        rw [Coord.chebyshev_eq_zero_iff.mpr same] at far
        cases far
      obtain ⟨near, step, closer, nearX, nearY⟩ := Coord.exists_closer apart
      have onGrid : network.grid.contains near = true := by
        rw [Grid.contains_iff] at inside start ⊢
        omega
      refine edist_le_succ_iff.mpr (.inr ⟨near, ?_, ih near onGrid (by omega)⟩)
      exact ⟨alive near onGrid, alive cell inside, step, uncut .., uncut ..⟩
  have short := within _ cell goal rfl
  apply le_antisymm short
  obtain ⟨walk, length⟩ := SimpleGraph.exists_walk_of_edist_ne_top
    (ne_top_of_le_ne_top (ENat.natCast_ne_top _) short)
  rw [← length]
  exact ENat.natCast_le_natCast.mpr (chebyshev_le_length walk)

end Network
end GridDiffusion
