import GridDiffusion.Grid.AddressText
import GridDiffusion.Grid.Neighborhood
import GridDiffusion.Json.Record
/-! Grids, cells and neighbors as documents. A grid that is read has been checked, so no document
holds an empty grid or one beyond the last port. -/
namespace GridDiffusion

inductive DocumentError
  | unreadable
  /-- The document describes a grid that cannot exist. -/
  | refused (cause : TopologyError)
deriving DecidableEq

namespace Coord

def ofTree? (tree : Json.Tree) : Option Coord := do
  let record ← tree.record? .refused ["x", "y"]
  let x ← record.required "x" (·.nat? (UInt32.size - 1))
  let y ← record.required "y" (·.nat? (UInt32.size - 1))
  pure ⟨x.toUInt32, y.toUInt32⟩

def value (coord : Coord) : Json.Value :=
  .object [("x", .int coord.x.toNat), ("y", .int coord.y.toNat)]

end Coord

namespace Address

def ofTree? (tree : Json.Tree) : Option Address := tree.text?.bind ofText?

def value (address : Address) : Json.Value := .text address.text

end Address

namespace Neighbor

def ofTree? (tree : Json.Tree) : Option Neighbor := do
  let record ← tree.record? .refused ["id", "addr", "coord"]
  let id ← record.required "id" (·.text?)
  let address ← record.required "addr" Address.ofTree?
  let coord ← record.required "coord" Coord.ofTree?
  pure { id, address, coord }

def value (neighbor : Neighbor) : Json.Value :=
  .object [("id", .text neighbor.id), ("addr", neighbor.address.value),
    ("coord", neighbor.coord.value)]

end Neighbor

namespace Grid

/-- Read a size and a base address, then check that they make a grid. -/
def ofTree (tree : Json.Tree) : Except DocumentError Grid :=
  let parts := do
    let record ← tree.record? .refused ["size", "base"]
    let size ← record.required "size" (·.nat? (UInt32.size - 1))
    let base ← record.required "base" Address.ofTree?
    pure (size.toUInt32, base)
  match parts with
  | none => .error .unreadable
  | some (size, base) => (ofSize size base).mapError .refused

def value (grid : Grid) : Json.Value :=
  .object [("size", .int grid.size.toNat), ("base", grid.base.value)]

end Grid

def orUnreadable {Result : Type} (read : Json.Tree → Option Result) (tree : Json.Tree) :
    Except DocumentError Result :=
  match read tree with
  | some result => .ok result
  | none => .error .unreadable

/-- Read a document by its first value, and only then look for anything after it. -/
def readDocument {Result : Type} (read : Json.Tree → Except DocumentError Result)
    (bytes : List UInt8) : Except DocumentError Result :=
  match Json.Tree.take? (Json.tokens bytes) with
  | none => .error .unreadable
  | some (tree, rest) => do
    let result ← read tree
    if rest.isEmpty then pure result else .error .unreadable

end GridDiffusion
