import GridDiffusion.Grid.Document
import GridDiffusion.Proofs.Grid.AddressText
import GridDiffusion.Proofs.Grid.Addressing
import GridDiffusion.Proofs.Grid.Neighborhood
import GridDiffusion.Proofs.Json.Fields
import GridDiffusion.Proofs.Json.Grammar
import GridDiffusion.Proofs.Json.ReadBack
/-! Grids, cells and neighbors as documents: which documents are grids, that no other way leads to a
grid than the check of its size and base, and that what is written is read back. -/
namespace GridDiffusion

open Json

namespace Json.Tree

/-- Bytes that begin with a tree, whatever stands behind it. -/
def IsFront (tree : Tree) (bytes : List UInt8) : Prop := ∃ rest, tokens bytes = tree.row ++ rest

theorem take?_eq_some_iff {row rest : List Token} {tree : Tree} :
    take? row = some (tree, rest) ↔ row = tree.row ++ rest := by
  constructor
  · intro taken
    simpa [rowBefore] using row_of_readFrom taken
  · rintro rfl
    rw [take?, readFrom_treeRow, readFrom]

theorem isDocument_iff {tree : Tree} {bytes : List UInt8} :
    tree.IsDocument bytes ↔ tokens bytes = tree.row := by
  rw [← ofBytes?_eq_some_iff, ofBytes?, ofTokens?_eq_some_iff]

end Json.Tree

section Reading
variable {Result : Type} {read : Tree → Except DocumentError Result} {bytes : List UInt8}
  {result : Result}

theorem readDocument_eq {tree : Tree} {rest : List Token} (row : tokens bytes = tree.row ++ rest) :
    readDocument read bytes =
      (read tree).bind fun result => if rest.isEmpty then .ok result else .error .unreadable := by
  rw [readDocument, Tree.take?_eq_some_iff.mpr row]
  rfl

theorem exists_isFront (readable : readDocument read bytes ≠ .error .unreadable) :
    ∃ tree : Tree, tree.IsFront bytes := by
  unfold readDocument at readable
  split at readable
  · exact absurd rfl readable
  next tree rest taken => exact ⟨tree, rest, Tree.take?_eq_some_iff.mp taken⟩

theorem readDocument_of_isDocument {tree : Tree} (document : tree.IsDocument bytes) :
    readDocument read bytes = read tree := by
  have row : tokens bytes = tree.row ++ [] := by
    rw [Tree.isDocument_iff.mp document, List.append_nil]
  rw [readDocument_eq row]
  cases read tree <;> rfl

theorem readDocument_eq_ok_iff : readDocument read bytes = .ok result ↔
    ∃ tree : Tree, tree.IsDocument bytes ∧ read tree = .ok result := by
  constructor
  · intro found
    obtain ⟨tree, rest, row⟩ := exists_isFront (by rw [found]; nofun)
    rw [readDocument_eq row] at found
    cases value : read tree with
    | error cause => rw [value] at found; cases found
    | ok own =>
      rw [value] at found
      cases rest with
      | nil => exact ⟨tree, Tree.isDocument_iff.mpr (by rw [row, List.append_nil]), value.trans found⟩
      | cons token rest => cases found
  · rintro ⟨tree, document, value⟩
    rw [readDocument_of_isDocument document, value]

theorem readDocument_eq_refused_iff {cause : TopologyError} :
    readDocument read bytes = .error (.refused cause) ↔
      ∃ tree : Tree, tree.IsFront bytes ∧ read tree = .error (.refused cause) := by
  constructor
  · intro found
    obtain ⟨tree, rest, row⟩ := exists_isFront (by rw [found]; nofun)
    refine ⟨tree, ⟨rest, row⟩, ?_⟩
    rw [readDocument_eq row] at found
    cases value : read tree with
    | error own => rw [value] at found; exact found
    | ok own => rw [value] at found; cases rest <;> cases found
  · rintro ⟨tree, ⟨rest, row⟩, value⟩
    rw [readDocument_eq row, value]
    rfl

theorem readDocument_render {value : Value} {tree : Tree} (written : value.tree? = some tree)
    (reads : read tree = .ok result) :
    readDocument read value.render.toUTF8.toList = .ok result := by
  have document := Tree.ofBytes?_render value
  rw [written, Tree.ofBytes?_eq_some_iff] at document
  rw [readDocument_of_isDocument document, reads]

end Reading

def Address.IsOf (address : Address) (tree : Tree) : Prop :=
  ∃ text, tree.IsText text ∧ ofText? text = some address

theorem Address.ofTree?_eq_some_iff {tree : Tree} {address : Address} :
    ofTree? tree = some address ↔ address.IsOf tree := by
  simp only [ofTree?, Option.bind_eq_some_iff, Tree.text?_eq_some_iff, IsOf]

namespace Grid

/-- A size and a base address, as a record of both: an object that repeats neither, with any other
members and in any order, or an array. -/
structure IsDescribed (size : UInt32) (base : Address) (tree : Tree) : Prop where
  record : tree.IsRecord .refused ["size", "base"]
  size : tree.Requires ["size", "base"] "size" (Tree.IsWhole size.toNat)
  base : tree.Requires ["size", "base"] "base" base.IsOf

variable {size : UInt32} {base : Address} {tree : Tree}

theorem nodup_names : ["size", "base"].Nodup := by decide

theorem IsDescribed.ofTree_eq (shown : IsDescribed size base tree) :
    ofTree tree = (ofSize size base).mapError .refused := by
  obtain ⟨record, found⟩ := Option.isSome_iff_exists.mp (Tree.isSome_record?_iff.mpr shown.record)
  have sizeRead := Tree.required_of_requires found nodup_names shown.size fun _ => Tree.nat?_toNat
  have baseRead := (Tree.required_eq_some_iff found nodup_names fun _ =>
    Address.ofTree?_eq_some_iff).mpr shown.base
  simp only [ofTree, found, sizeRead, baseRead, Option.bind_eq_bind, Option.bind_some,
    Option.pure_def, Nat.toUInt32_eq, UInt32.ofNat_toNat]

theorem exists_isDescribed (readable : ofTree tree ≠ .error .unreadable) :
    ∃ size base, IsDescribed size base tree := by
  unfold ofTree at readable
  dsimp only at readable
  split at readable
  · exact absurd rfl readable
  next size base parts =>
    simp only [Option.bind_eq_bind, Option.bind_eq_some_iff, Option.pure_def,
      Option.some.injEq] at parts
    obtain ⟨record, found, amount, sizeRead, own, baseRead, -⟩ := parts
    exact ⟨amount.toUInt32, own, {
      record := Tree.isSome_record?_iff.mp (Option.isSome_of_eq_some found)
      size := Tree.requires_of_required found nodup_names sizeRead fun _ => Tree.isWhole_of_nat?
      base := (Tree.required_eq_some_iff found nodup_names fun _ =>
        Address.ofTree?_eq_some_iff).mp baseRead }⟩

/-- Whatever is said of a tree, other than that it cannot be read, is said of what it describes. -/
theorem ofTree_eq_iff (outcome : Except DocumentError Grid) (readable : outcome ≠ .error .unreadable) :
    ofTree tree = outcome ↔
      ∃ size base, IsDescribed size base tree ∧ (ofSize size base).mapError .refused = outcome := by
  constructor
  · rintro rfl
    obtain ⟨size, base, shown⟩ := exists_isDescribed readable
    exact ⟨size, base, shown, shown.ofTree_eq.symm⟩
  · rintro ⟨size, base, shown, rfl⟩
    exact shown.ofTree_eq

theorem ofTree_eq_ok_iff {grid : Grid} : ofTree tree = .ok grid ↔
    ∃ size base, IsDescribed size base tree ∧ ofSize size base = .ok grid := by
  rw [ofTree_eq_iff (.ok grid) nofun]
  refine exists_congr fun size => exists_congr fun base => and_congr_right fun _ => ?_
  cases ofSize size base <;> simp [Except.mapError]

theorem ofTree_eq_refused_iff {cause : TopologyError} : ofTree tree = .error (.refused cause) ↔
    ∃ size base, IsDescribed size base tree ∧ ofSize size base = .error cause := by
  rw [ofTree_eq_iff (.error (.refused cause)) nofun]
  refine exists_congr fun size => exists_congr fun base => and_congr_right fun _ => ?_
  cases ofSize size base <;> simp [Except.mapError]

end Grid

theorem Address.ofTree?_text {address : Address} (short : address.IsShort) :
    ofTree? (.text (.ofText address.text)) = some address := by
  rw [ofTree?, Tree.text?, Spelling.text?_ofText, Option.bind_some, short.ofText?_text]

theorem Grid.exists_tree {grid : Grid} (short : grid.base.IsShort) :
    ∃ tree, grid.value.tree? = some tree ∧ ofTree tree = .ok grid := by
  obtain ⟨size, written, sizeRead⟩ := Tree.exists_word32 grid.size
  have baseRead := Address.ofTree?_text short
  have made : ofSize grid.size grid.base = .ok grid := ofSize_eq_ok_iff.mpr ⟨rfl, rfl⟩
  refine ⟨.ofFields [("size", .number size), ("base", .text (.ofText grid.base.text))], ?_, ?_⟩
  · simp [value, Address.value, Value.tree?, Value.treesOfMembers?, written, Tree.ofFields]
  · simp [ofTree, Tree.record?_ofFields, Record.required, Record.get?, List.lookup_cons, sizeRead,
      baseRead, made]

theorem Coord.exists_tree (coord : Coord) :
    ∃ tree, coord.value.tree? = some tree ∧ ofTree? tree = some coord := by
  obtain ⟨x, xWritten, xRead⟩ := Tree.exists_word32 coord.x
  obtain ⟨y, yWritten, yRead⟩ := Tree.exists_word32 coord.y
  refine ⟨.ofFields [("x", .number x), ("y", .number y)], ?_, ?_⟩
  · simp [value, Value.tree?, Value.treesOfMembers?, xWritten, yWritten, Tree.ofFields]
  · simp [ofTree?, Tree.record?_ofFields, Record.required, Record.get?, List.lookup_cons, xRead, yRead]

theorem Neighbor.exists_tree {neighbor : Neighbor} (short : neighbor.address.IsShort) :
    ∃ tree, neighbor.value.tree? = some tree ∧ ofTree? tree = some neighbor := by
  obtain ⟨coord, written, coordRead⟩ := neighbor.coord.exists_tree
  have addressRead := Address.ofTree?_text short
  refine ⟨.ofFields [("id", .text (.ofText neighbor.id)),
    ("addr", .text (.ofText neighbor.address.text)), ("coord", coord)], ?_, ?_⟩
  · simp [value, Address.value, Value.tree?, Value.treesOfMembers?, written, Tree.ofFields]
  · simp [ofTree?, Tree.record?_ofFields, Record.required, Record.get?, List.lookup_cons, Tree.text?,
      Spelling.text?_ofText, addressRead, coordRead]

theorem orUnreadable_of_some {Result : Type} {read : Tree → Option Result} {tree : Tree}
    {result : Result} (found : read tree = some result) : orUnreadable read tree = .ok result := by
  rw [orUnreadable, found]

/-- A document that describes a size and a base address is the grid of them, or is refused for the
cause that they make none. Reading gives a grid only of such a document, so the grid has a cell and
its last port exists; and it refuses only what begins with such a record. What is written of a grid,
of a cell and of a neighbor is read back as the same. -/
theorem Grid.readDocument_exact :
    (∀ bytes (tree : Tree) size base, tree.IsDocument bytes → IsDescribed size base tree →
      readDocument ofTree bytes = (ofSize size base).mapError .refused) ∧
    (∀ bytes grid, readDocument ofTree bytes = .ok grid →
      (∃ tree : Tree, tree.IsDocument bytes ∧ IsDescribed grid.size grid.base tree) ∧
        ofSize grid.size grid.base = .ok grid ∧ 1 ≤ grid.size.toNat ∧
        grid.base.port.toNat + grid.size.toNat ^ 2 - 1 ≤ 65535) ∧
    (∀ bytes cause, readDocument ofTree bytes = .error (.refused cause) ↔
      ∃ tree size base, tree.IsFront bytes ∧ IsDescribed size base tree ∧
        ofSize size base = .error cause) ∧
    (∀ grid : Grid, grid.base.IsShort →
      readDocument ofTree grid.value.render.toUTF8.toList = .ok grid) ∧
    (∀ coord : Coord,
      readDocument (orUnreadable Coord.ofTree?) coord.value.render.toUTF8.toList = .ok coord) ∧
    ∀ neighbor : Neighbor, neighbor.address.IsShort →
      readDocument (orUnreadable Neighbor.ofTree?) neighbor.value.render.toUTF8.toList =
        .ok neighbor := by
  refine ⟨fun bytes tree size base document shown => ?_, fun bytes grid read => ?_,
    fun bytes cause => ?_, fun grid short => ?_, fun coord => ?_, fun neighbor short => ?_⟩
  · rw [readDocument_of_isDocument document, shown.ofTree_eq]
  · obtain ⟨tree, document, found⟩ := readDocument_eq_ok_iff.mp read
    obtain ⟨size, base, shown, made⟩ := ofTree_eq_ok_iff.mp found
    have fits := exists_ofSize_iff.mp ⟨grid, made⟩
    obtain ⟨rfl, rfl⟩ := ofSize_eq_ok_iff.mp made
    exact ⟨⟨tree, document, shown⟩, made, fits⟩
  · simp only [readDocument_eq_refused_iff, ofTree_eq_refused_iff, exists_and_left]
  · obtain ⟨tree, written, read⟩ := exists_tree short
    exact readDocument_render written read
  · obtain ⟨tree, written, read⟩ := coord.exists_tree
    exact readDocument_render written (orUnreadable_of_some read)
  · obtain ⟨tree, written, read⟩ := neighbor.exists_tree short
    exact readDocument_render written (orUnreadable_of_some read)

/-- An object in another order, with a member that is skipped. -/
def describedGrid (size : String) : List UInt8 :=
  ("\x7b\"base\":\"127.0.0.1:9000\",\"more\":[null],\"size\":" ++ size ++ "\x7d").toUTF8.toList

/-- Four cells are written and read back, and read from another document of theirs. Where the last
of the cells would lie beyond all ports there is no grid. -/
theorem Grid.readDocument_exact_fourCells :
    readDocument ofTree fourCells.value.render.toUTF8.toList = .ok fourCells ∧
      readDocument ofTree (describedGrid "2") = .ok fourCells ∧
      readDocument ofTree (describedGrid "238") = .error (.refused (.portOverflow 9000 238)) := by
  obtain ⟨-, -, -, readBack, -, -⟩ := readDocument_exact
  exact ⟨readBack fourCells (.intro 127 0 0 1 9000), by decide +kernel, by decide +kernel⟩

end GridDiffusion
