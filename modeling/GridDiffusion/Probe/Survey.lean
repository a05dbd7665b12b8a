import GridDiffusion.Number.Binary64
import GridDiffusion.Probe.Basic
/-! Surveys: what the nodes of a grid report of themselves, cell by cell. A pong counts for the cell
whose address it came from, whatever position it states. -/
namespace GridDiffusion

structure Survey where
  size : UInt32
  statuses : SortedMap Coord NodeStatus
deriving DecidableEq

structure SurveyStats where
  cells : Nat
  alive : Nat
  totalItems : Nat
  /-- The mean generation, where some node is alive. -/
  averageGeneration : Option Binary64
  /-- The most items that one node holds, where some node is alive. -/
  maxItems : Option Nat
  nodesWithItems : Nat
  spread : SortedMap String Nat
deriving DecidableEq

namespace Survey

/-- Enter a datagram: a pong from a cell's address replaces what the cell said before. -/
def enter (grid : Grid) (statuses : SortedMap Coord NodeStatus) (datagram : Datagram) :
    SortedMap Coord NodeStatus :=
  match grid.coordAt? datagram.source, datagram.pong? with
  | some coord, some status => statuses.insert coord status
  | _, _ => statuses

/-- Read datagrams until every cell has answered or none is left. -/
def read (grid : Grid) (statuses : SortedMap Coord NodeStatus) :
    List Datagram → SortedMap Coord NodeStatus
  | [] => statuses
  | datagram :: rest =>
    if statuses.size < grid.cellCount then read grid (enter grid statuses datagram) rest
    else statuses

def ofArrivals (grid : Grid) (arrivals : List Datagram) : Survey :=
  ⟨grid.size, read grid .empty arrivals⟩

def cellCount (survey : Survey) : Nat := survey.size.toNat * survey.size.toNat

def status? (survey : Survey) (coord : Coord) : Option NodeStatus := survey.statuses.get? coord

def responding (survey : Survey) : Nat := survey.statuses.size

def aliveStatuses (survey : Survey) : List NodeStatus := survey.statuses.values.filter (·.alive)

def alive (survey : Survey) : Nat := survey.aliveStatuses.length

/-- The cells whose nodes report holding an item, dead ones too, column by column. -/
def holders (survey : Survey) (id : String) : List Coord :=
  (survey.statuses.entries.filter (·.2.holds id)).map (·.1)

def tally (spread : SortedMap String Nat) (id : String) : SortedMap String Nat :=
  spread.insert id ((spread.get? id).getD 0 + 1)

/-- The mean of the generations: doubles summed in cell order, then divided. -/
def meanGeneration (statuses : List NodeStatus) : Binary64 :=
  let sum := statuses.foldl (fun sum status => sum + status.generation.toFloat) 0
  .ofFloat (sum / statuses.length.toFloat)

def stats (survey : Survey) : SurveyStats :=
  let statuses := survey.aliveStatuses
  { cells := survey.cellCount
    alive := statuses.length
    totalItems := statuses.foldl (fun total status => total + status.itemCount) 0
    averageGeneration := if statuses.isEmpty then none else some (meanGeneration statuses)
    maxItems := (statuses.map (·.itemCount)).max?
    nodesWithItems := (statuses.filter (0 < ·.itemCount)).length
    spread := (statuses.flatMap (·.items.keys)).foldl tally .empty }

end Survey

def SurveyStats.alivePercent (stats : SurveyStats) : Binary64 :=
  .ofFloat (if stats.cells = 0 then 0 else stats.alive.toFloat * 100 / stats.cells.toFloat)

end GridDiffusion
