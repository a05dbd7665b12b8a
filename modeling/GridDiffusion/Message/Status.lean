import GridDiffusion.Grid.Coord
import GridDiffusion.Json.Record
import GridDiffusion.SortedMap
/-! What a node reports of itself when it is asked. Dead nodes report too. -/
namespace GridDiffusion

structure ItemSummary where
  energy : UInt64
  hops : UInt64
deriving DecidableEq

structure NodeStatus where
  alive : Bool
  coord : Coord
  itemCount : Nat
  items : SortedMap String ItemSummary
  generation : UInt64
  neighbors : Nat
deriving DecidableEq

def Json.Tree.word? (tree : Json.Tree) : Option UInt64 :=
  (tree.nat? maxWord64).map Nat.toUInt64

namespace ItemSummary

def ofTree? (repeats : Json.Repeats) (tree : Json.Tree) : Option ItemSummary := do
  let record ← tree.record? repeats ["energy", "hops"]
  let energy ← record.required "energy" (·.word?)
  let hops ← record.required "hops" (·.word?)
  pure { energy, hops }

def value (summary : ItemSummary) : Json.Value :=
  .object [("energy", .int summary.energy.toNat), ("hops", .int summary.hops.toNat)]

end ItemSummary

namespace NodeStatus

def holds (status : NodeStatus) (id : String) : Bool := status.items.contains id

def fieldNames : List String :=
  ["alive", "grid_x", "grid_y", "information_count", "information", "generation", "neighbors"]

def ofTree? (repeats : Json.Repeats) (tree : Json.Tree) : Option NodeStatus := do
  let record ← tree.record? repeats fieldNames
  let alive ← record.required "alive" (·.bool?)
  let x ← record.required "grid_x" (·.nat? (UInt32.size - 1))
  let y ← record.required "grid_y" (·.nat? (UInt32.size - 1))
  let itemCount ← record.required "information_count" (·.nat? maxWord64)
  let items ← record.required "information" (·.map? repeats (ItemSummary.ofTree? repeats))
  let generation ← record.required "generation" (·.word?)
  let neighbors ← record.required "neighbors" (·.nat? maxWord64)
  pure { alive, coord := ⟨x.toUInt32, y.toUInt32⟩, itemCount, items := .ofList items, generation,
         neighbors }

def itemsValue (status : NodeStatus) : Json.Value :=
  .object (status.items.entries.map fun entry => (entry.1, entry.2.value))

/-- The status as an object with its fields in declaration order. -/
def value (status : NodeStatus) : Json.Value :=
  .object [("alive", .bool status.alive), ("grid_x", .int status.coord.x.toNat),
    ("grid_y", .int status.coord.y.toNat), ("information_count", .int status.itemCount),
    ("information", status.itemsValue), ("generation", .int status.generation.toNat),
    ("neighbors", .int status.neighbors)]

/-- The status as an object with its fields in name order. -/
def sortedValue (status : NodeStatus) : Json.Value :=
  .object [("alive", .bool status.alive), ("generation", .int status.generation.toNat),
    ("grid_x", .int status.coord.x.toNat), ("grid_y", .int status.coord.y.toNat),
    ("information", status.itemsValue), ("information_count", .int status.itemCount),
    ("neighbors", .int status.neighbors)]

end NodeStatus
end GridDiffusion
