import GridDiffusion.Node.Arguments
import GridDiffusion.Proofs.Grid.Addressing
import GridDiffusion.Proofs.Node.Log
/-! The start of a node from its command line: the arguments are accepted exactly if they describe a
node that the others of its grid can reach, and the configuration is that node's. -/
namespace GridDiffusion

/-- On the grid, whatever a configuration is refused for is its own fault. -/
theorem NodeConfig.validate_cases (config : NodeConfig)
    (onGrid : config.grid.contains config.coord = true) :
    config.validate = .ok () ∨ ∃ cause, config.validate = .error (.config cause) := by
  obtain ⟨expected, found⟩ := Grid.exists_addressOf_iff.mpr onGrid
  unfold validate
  rw [found]
  dsimp only
  split
  · exact .inr ⟨_, rfl⟩
  split
  · exact .inr ⟨_, rfl⟩
  split
  · exact .inr ⟨_, rfl⟩
  split
  · exact .inr ⟨_, rfl⟩
  · exact .inl rfl

namespace NodeArguments
variable {arguments : NodeArguments} {grid : Grid} {own : Address}

/-- The address of the first cell: its port may be given apart. -/
def base (arguments : NodeArguments) : Address :=
  { arguments.baseAddress with port := arguments.basePort.getD arguments.baseAddress.port }

def cell (arguments : NodeArguments) : Coord := ⟨arguments.gridX, arguments.gridY⟩

/-- The port at which the cell's peers look for it. -/
def cellPort (arguments : NodeArguments) : Nat :=
  arguments.base.port.toNat +
    (arguments.gridY.toNat * arguments.gridSize.toNat + arguments.gridX.toNat)

/-- The size and the base address are those of a grid: it has a cell, and its last port exists. -/
def HasGrid (arguments : NodeArguments) : Prop :=
  1 ≤ arguments.gridSize.toNat ∧
    arguments.base.port.toNat + arguments.gridSize.toNat ^ 2 - 1 ≤ 65535

instance (arguments : NodeArguments) : Decidable arguments.HasGrid :=
  inferInstanceAs (Decidable (_ ∧ _))

/-- The arguments describe a node of a grid that listens where its peers look for it. -/
structure DescribesNode (arguments : NodeArguments) : Prop where
  grid : arguments.HasGrid
  column : arguments.gridX < arguments.gridSize
  row : arguments.gridY < arguments.gridSize
  id {id : String} : arguments.nodeId = some id →
    ∃ character ∈ id.toList, isBlank character = false
  port {port : UInt16} : arguments.port = some port → port.toNat = arguments.cellPort
  tick : arguments.tickMs ≠ 0
  sendBuffer : arguments.sendBuffer ≠ 0
  receiveBuffer : arguments.receiveBuffer ≠ 0

/-- A configuration of the node that the arguments describe, with which it starts. -/
structure Configures (arguments : NodeArguments) (config : NodeConfig) : Prop where
  id : config.nodeId = arguments.nodeId.getD arguments.cell.peerId
  grid : config.grid.size = arguments.gridSize ∧ config.grid.base = arguments.base
  coord : config.coord = arguments.cell
  host : config.bind.host = arguments.baseAddress.host
  zone : config.bind.zone = arguments.baseAddress.zone
  port : config.bind.port.toNat = arguments.cellPort
  tick : config.tickMs = arguments.tickMs
  buffers : config.sendBuffer = arguments.sendBuffer ∧
    config.receiveBuffer = arguments.receiveBuffer
  adminSocket : config.adminSocket = arguments.adminSocket
  valid : config.validate = .ok ()
  starts : ∃ node, Node.ofConfig config = .ok node

/-- The configuration of the cell with what the arguments put in place of its defaults. -/
def draft (arguments : NodeArguments) (grid : Grid) (own : Address) : NodeConfig where
  nodeId := arguments.nodeId.getD arguments.cell.peerId
  grid
  coord := arguments.cell
  bind := { own with port := arguments.port.getD own.port }
  tickMs := arguments.tickMs
  sendBuffer := arguments.sendBuffer
  receiveBuffer := arguments.receiveBuffer
  adminSocket := arguments.adminSocket

theorem toConfig_of_refused {cause : TopologyError}
    (refused : Grid.ofSize arguments.gridSize arguments.base = .error cause) :
    arguments.toConfig = .error (.topology cause) := by
  have base : { arguments.baseAddress with
    port := arguments.basePort.getD arguments.baseAddress.port } = arguments.base := rfl
  simp only [toConfig, base, refused]
  rfl

theorem toConfig_of_offGrid (made : Grid.ofSize arguments.gridSize arguments.base = .ok grid)
    (offGrid : grid.contains arguments.cell = false) :
    arguments.toConfig = .error (.config (.offGrid arguments.cell arguments.gridSize)) := by
  have base : { arguments.baseAddress with
    port := arguments.basePort.getD arguments.baseAddress.port } = arguments.base := rfl
  have cell : (⟨arguments.gridX, arguments.gridY⟩ : Coord) = arguments.cell := rfl
  simp [toConfig, base, made, cell, offGrid]

theorem toConfig_of_addressOf (made : Grid.ofSize arguments.gridSize arguments.base = .ok grid)
    (found : grid.addressOf arguments.cell = .ok own) :
    arguments.toConfig = (arguments.draft grid own).validate.map fun _ => arguments.draft grid own := by
  have base : { arguments.baseAddress with
    port := arguments.basePort.getD arguments.baseAddress.port } = arguments.base := rfl
  have cell : (⟨arguments.gridX, arguments.gridY⟩ : Coord) = arguments.cell := rfl
  have onGrid := (Grid.addressOf_eq_ok_iff.mp found).1
  simp [toConfig, base, made, cell, onGrid, NodeConfig.forCell, found]
  rfl

theorem isBlank_nodeId_iff : Text.isBlank (arguments.nodeId.getD arguments.cell.peerId) = false ↔
    ∀ id, arguments.nodeId = some id → ∃ character ∈ id.toList, isBlank character = false := by
  cases given : arguments.nodeId with
  | none => simpa using Node.isBlank_peerId arguments.cell
  | some id => simp [Text.isBlank]

theorem bind_draft_iff (found : grid.addressOf arguments.cell = .ok own) :
    grid.addressOf arguments.cell = .ok (arguments.draft grid own).bind ↔
      ∀ port, arguments.port = some port → port = own.port := by
  rw [found, Except.ok.injEq, draft]
  cases given : arguments.port with
  | none => simp
  | some port =>
    constructor
    · intro same port' there
      cases there
      exact (congrArg Address.port same).symm
    · intro same
      rw [same port rfl, Option.getD_some]

theorem toNat_port_eq_cellPort (made : Grid.ofSize arguments.gridSize arguments.base = .ok grid)
    (found : grid.addressOf arguments.cell = .ok own) : own.port.toNat = arguments.cellPort := by
  obtain ⟨size, base⟩ := Grid.ofSize_eq_ok_iff.mp made
  rw [Grid.toNat_port found, size, base]
  rfl

theorem contains_cell_iff (made : Grid.ofSize arguments.gridSize arguments.base = .ok grid) :
    grid.contains arguments.cell = true ↔
      arguments.gridX < arguments.gridSize ∧ arguments.gridY < arguments.gridSize := by
  rw [Grid.contains, (Grid.ofSize_eq_ok_iff.mp made).1, Bool.and_eq_true, decide_eq_true_iff,
    decide_eq_true_iff]
  rfl

theorem describesNode_iff_validate (made : Grid.ofSize arguments.gridSize arguments.base = .ok grid)
    (found : grid.addressOf arguments.cell = .ok own) :
    arguments.DescribesNode ↔ (arguments.draft grid own).validate = .ok () := by
  have port := toNat_port_eq_cellPort made found
  rw [NodeConfig.validate_eq_ok_iff]
  constructor
  · intro described
    refine ⟨isBlank_nodeId_iff.mpr fun id => described.id, (bind_draft_iff found).mpr ?_,
      described.tick, described.sendBuffer, described.receiveBuffer⟩
    intro given there
    exact UInt16.toNat_inj.mp ((described.port there).trans port.symm)
  · rintro ⟨named, bound, tick, sendBuffer, receiveBuffer⟩
    obtain ⟨column, row⟩ := (contains_cell_iff made).mp (Grid.addressOf_eq_ok_iff.mp found).1
    refine ⟨Grid.exists_ofSize_iff.mp ⟨grid, made⟩, column, row, @isBlank_nodeId_iff.mp named, ?_,
      tick, sendBuffer, receiveBuffer⟩
    intro given there
    rw [(bind_draft_iff found).mp bound given there, port]

/-- A configuration that passes its check is that of the node described. -/
theorem configures_draft (made : Grid.ofSize arguments.gridSize arguments.base = .ok grid)
    (found : grid.addressOf arguments.cell = .ok own)
    (valid : (arguments.draft grid own).validate = .ok ()) :
    arguments.Configures (arguments.draft grid own) := by
  obtain ⟨size, base⟩ := Grid.ofSize_eq_ok_iff.mp made
  obtain ⟨-, bound, -⟩ := NodeConfig.validate_eq_ok_iff.mp valid
  have place : (arguments.draft grid own).bind = own := Except.ok.inj (bound.symm.trans found)
  obtain ⟨-, same⟩ := Grid.addressOf_eq_ok_iff.mp found
  obtain ⟨node, started, -⟩ := Node.ofConfig_of_validate valid
  constructor
  case id => rfl
  case grid => exact ⟨size, base⟩
  case coord => rfl
  case host => rw [place, same, base, NodeArguments.base]
  case zone => rw [place, same, base, NodeArguments.base]
  case port => rw [place, toNat_port_eq_cellPort made found]
  case tick => rfl
  case buffers => exact ⟨rfl, rfl⟩
  case adminSocket => rfl
  case valid => exact valid
  case starts => exact ⟨node, started⟩

/-- Arguments are accepted exactly if they describe a node of a grid, and then give that node's
configuration. What is refused is refused for the grid if there is no such grid, and otherwise for
the configuration. -/
theorem toConfig_exact (arguments : NodeArguments) :
    ((∃ config, arguments.toConfig = .ok config) ↔ arguments.DescribesNode) ∧
    (∀ config, arguments.toConfig = .ok config → arguments.Configures config) ∧
    ∀ cause, arguments.toConfig = .error cause →
      (¬ arguments.HasGrid ∧ ∃ fault, cause = .topology fault) ∨
        (arguments.HasGrid ∧ ∃ fault, cause = .config fault) := by
  cases made : Grid.ofSize arguments.gridSize arguments.base with
  | error fault =>
    have absent : ¬ arguments.HasGrid := by
      intro there
      obtain ⟨grid, accepted⟩ := Grid.exists_ofSize_iff.mpr there
      rw [made] at accepted
      cases accepted
    rw [toConfig_of_refused made]
    refine ⟨iff_of_false nofun fun described => absent described.grid, nofun, ?_⟩
    rintro cause ⟨⟩
    exact .inl ⟨absent, fault, rfl⟩
  | ok grid =>
    have there : arguments.HasGrid := Grid.exists_ofSize_iff.mp ⟨grid, made⟩
    cases onGrid : grid.contains arguments.cell with
    | false =>
      rw [toConfig_of_offGrid made onGrid]
      refine ⟨iff_of_false nofun fun described => ?_, nofun, ?_⟩
      · have inside := (contains_cell_iff made).mpr ⟨described.column, described.row⟩
        rw [onGrid] at inside
        cases inside
      · rintro cause ⟨⟩
        exact .inr ⟨there, _, rfl⟩
    | true =>
      obtain ⟨own, found⟩ := Grid.exists_addressOf_iff.mpr onGrid
      rw [toConfig_of_addressOf made found, describesNode_iff_validate made found]
      rcases (arguments.draft grid own).validate_cases onGrid with valid | ⟨fault, refused⟩
      · rw [valid]
        refine ⟨iff_of_true ⟨_, rfl⟩ rfl, ?_, nofun⟩
        rintro config ⟨⟩
        exact configures_draft made found valid
      · rw [refused]
        refine ⟨iff_of_false nofun nofun, nofun, ?_⟩
        rintro cause ⟨⟩
        exact .inr ⟨there, fault, rfl⟩

/-- The node of the last cell of the last grid that fits below the end of the ports. -/
def farthest : NodeArguments where
  nodeId := some " far end "
  gridX := 15
  gridY := 15
  gridSize := 16
  baseAddress := defaultBaseAddress
  basePort := some 65280
  port := some 65535
  tickMs := 1
  sendBuffer := 1
  receiveBuffer := 1
  adminSocket := none

/-- One port further there is no such grid. -/
theorem toConfig_exact_farthest : farthest.DescribesNode ∧
    (∃ config, farthest.toConfig = .ok config ∧ farthest.Configures config) ∧
      ¬ { farthest with basePort := some 65281 }.HasGrid ∧
        ∃ fault, { farthest with basePort := some 65281 }.toConfig = .error (.topology fault) := by
  have described : farthest.DescribesNode := by
    refine ⟨by decide, by decide, by decide, ?_, ?_, by decide, by decide, by decide⟩
    · rintro id ⟨⟩
      exact ⟨'f', by decide, by decide⟩
    · rintro port ⟨⟩
      decide
  obtain ⟨accepted, configured, -⟩ := toConfig_exact farthest
  obtain ⟨config, made⟩ := accepted.mpr described
  exact ⟨described, ⟨config, made, configured config made⟩, by decide, _, rfl⟩

end NodeArguments
end GridDiffusion
