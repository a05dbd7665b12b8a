import GridDiffusion.Number.FixedPlaces
import GridDiffusion.Probe.Survey
import GridDiffusion.Text.Column
/-! Surveys as text: a map of the grid with one mark to a cell, totals, and the nodes that hold
items. -/
namespace GridDiffusion

inductive CellMark
  /-- The node did not answer. -/
  | silent
  | dead
  /-- The node is alive and holds so many items. -/
  | alive (itemCount : Nat)
deriving DecidableEq, Repr

namespace CellMark

def text : CellMark → String
  | silent => "."
  | dead => "x"
  | alive itemCount => "#" ++ itemCount.repr

def ofStatus : Option NodeStatus → CellMark
  | none => silent
  | some status => if status.alive then alive status.itemCount else dead

/-- A row of marks, four columns to each, without the blanks at the end of the row. -/
def rowText (marks : List CellMark) : String :=
  Text.trimEnd (String.join (marks.map fun mark => Text.padEnd 4 mark.text))

end CellMark

namespace Survey

def mark (survey : Survey) (coord : Coord) : CellMark := .ofStatus (survey.status? coord)

def rowMarks (survey : Survey) (row : Nat) : List CellMark :=
  (List.range survey.size.toNat).map fun column => survey.mark ⟨column.toUInt32, row.toUInt32⟩

def mapLines (survey : Survey) : List String :=
  (List.range survey.size.toNat).map fun row => CellMark.rowText (survey.rowMarks row)

def render (survey : Survey) : String :=
  Text.ofLines (survey.mapLines ++
    [survey.responding.repr ++ "/" ++ survey.cellCount.repr ++ " responding, " ++
      survey.alive.repr ++ " alive"])

def totalLines (stats : SurveyStats) : List String :=
  ["Network: " ++ stats.alive.repr ++ "/" ++ stats.cells.repr ++ " nodes alive (" ++
      stats.alivePercent.fixedPlaces 1 ++ "%)",
    "Information packets: " ++ stats.totalItems.repr] ++
  match stats.averageGeneration, stats.maxItems with
  | some average, some most =>
    ["Average generation: " ++ average.fixedPlaces 1,
      "Max items per node: " ++ most.repr,
      "Information spread: " ++ stats.nodesWithItems.repr ++ "/" ++ stats.alive.repr ++
        " nodes have data"] ++
      stats.spread.entries.map fun entry => "  " ++ entry.1 ++ ": " ++ entry.2.repr ++ " nodes"
  | _, _ => []

def listedNodes : Nat := 10

def listedItems : Nat := 3

/-- The first ids of a node, and how many more there are. -/
def itemList (status : NodeStatus) : String :=
  let ids := status.items.keys
  ", ".intercalate (ids.take listedItems) ++
    if listedItems < ids.length then " (+" ++ (ids.length - listedItems).repr ++ " more)" else ""

def holderLine (entry : Coord × NodeStatus) : String :=
  "  " ++ entry.1.peerId ++ ": " ++ entry.2.itemCount.repr ++ " items [" ++ itemList entry.2 ++ "]"

def holderLines (survey : Survey) : List String :=
  let holding := survey.statuses.entries.filter fun entry => entry.2.alive && 0 < entry.2.itemCount
  if holding.isEmpty then ["No nodes currently have information"]
  else
    "Nodes with information:" :: (holding.take listedNodes).map holderLine ++
      if listedNodes < holding.length then
        ["  ... and " ++ (holding.length - listedNodes).repr ++ " more nodes"]
      else []

def report (survey : Survey) : String :=
  survey.render ++ Text.ofLines (totalLines survey.stats ++ survey.holderLines)

end Survey
end GridDiffusion
