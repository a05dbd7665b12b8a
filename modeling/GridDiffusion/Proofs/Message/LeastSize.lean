import GridDiffusion.Proofs.Json.LeastSize
import GridDiffusion.Proofs.Message.Grammar
import GridDiffusion.Proofs.Message.Size
/-! How short a datagram with an item gets: at the least it is an array of the values that have no
default. -/
namespace GridDiffusion

open Json

namespace Json.Tree
variable {tree : Tree} {repeats : Repeats} {names : List String} {record : Record} {name : String}
  {Absent : Prop} {Suits : Tree → Prop} {least : Nat}

/-- The room that a record leaves for a field, with a byte besides. -/
def room (record : Record) (name : String) : Nat :=
  ((record.get? name).map fun field => field.leastSize + 1).getD 0

theorem Requires.le_room (given : tree.Requires names name Suits)
    (read : tree.record? repeats names = some record) (distinct : names.Nodup)
    (each : ∀ field, Suits field → least ≤ field.leastSize) : least + 1 ≤ room record name := by
  obtain ⟨field, gives, suits⟩ := given
  rw [room, (get?_record_iff read distinct).mpr gives]
  exact Nat.succ_le_succ (each field suits)

theorem Permits.le_room (given : tree.Permits names name Absent Suits)
    (read : tree.record? repeats names = some record) (distinct : names.Nodup)
    (each : ∀ field, Suits field → least ≤ field.leastSize) : least + 1 ≤ room record name ∨ Absent :=
  given.imp (fun required => required.le_room read distinct each) And.right

end Json.Tree

theorem MessageKind.IsNamed.le_leastSize {kind : MessageKind} {tree : Tree} (named : kind.IsNamed tree) :
    2 + (Spelling.ofText kind.name).length ≤ tree.leastSize := by
  cases named with
  | text shown => exact Nat.le_of_eq shown.leastSize_eq.symm
  | object means =>
    simp only [Tree.leastSize, Tree.row, Tree.rowOfMembers, Token.leastSize,
      Spelling.text?_eq_some_iff.mpr means, List.map_cons, List.map_append, List.sum_cons,
      List.sum_append, Option.map_some, Option.getD_some]
    omega

/-- The fewest bytes of a datagram that brings an item. Content and hops that are the default are
left out. -/
def Parcel.leastSize (parcel : Parcel) (sender : String) : Nat :=
  24 + (Spelling.ofText sender).length + (Spelling.ofText parcel.id).length +
    (if parcel.content = "" then 0 else 3 + (Spelling.ofText parcel.content).length) +
      parcel.energy.toInt.toNat.repr.length +
        (if parcel.hops = 0 then 0 else 1 + parcel.hops.toNat.repr.length)

namespace Frame
variable {frame : Frame} {parcel : Parcel} {tree : Tree}

theorem HasParcel.le_leastSize (shown : frame.HasParcel parcel) :
    4 + (Spelling.ofText parcel.id).length +
      (if parcel.content = "" then 0 else 3 + (Spelling.ofText parcel.content).length) ≤
        frame.data.leastSize := by
  have distinct : ["info_id", "content"].Nodup := by decide
  obtain ⟨record, read⟩ := Option.isSome_iff_exists.mp (Tree.isSome_record?_iff.mpr shown.record)
  have text (text : String) (field : Tree) (shown : field.IsText text) :
      2 + (Spelling.ofText text).length ≤ field.leastSize := Nat.le_of_eq shown.leastSize_eq.symm
  have id := shown.id.le_room read distinct (text parcel.id)
  have content := shown.content.le_room read distinct (text parcel.content)
  have all : 1 + (Tree.room record "info_id" + (Tree.room record "content" + 0)) ≤
      frame.data.leastSize := Tree.le_leastSize_record read distinct
  split
  · omega
  next full =>
    have given := content.resolve_right fun absent => full absent.symm
    omega

theorem IsOf.le_leastSize (shown : frame.IsOf tree) (kind : frame.kind = .information)
    (brings : frame.HasParcel parcel) (charged : 0 < parcel.energy.toInt) :
    parcel.leastSize frame.sender ≤ tree.leastSize := by
  obtain ⟨record, read⟩ := Option.isSome_iff_exists.mp (Tree.isSome_record?_iff.mpr shown.record)
  have parcelSize := brings.le_leastSize
  have amount : parcel.energy.toInt = (parcel.energy.toInt.toNat : Int) := by omega
  have named := shown.kind.le_room read nodup_names fun _ => MessageKind.IsNamed.le_leastSize
  have sender := shown.sender.le_room read nodup_names fun _ shown =>
    Nat.le_of_eq shown.leastSize_eq.symm
  have data := shown.data.le_room read nodup_names fun _ shown =>
    Nat.le_of_eq (congrArg Tree.leastSize shown.1.symm)
  have digits (field : Tree) (shown : Tree.IsWhole frame.energy.toInt field) :
      parcel.energy.toInt.toNat.repr.length ≤ field.leastSize := by
    rw [← brings.energy, amount] at shown
    exact Nat.le_of_eq shown.leastSize_eq.symm
  have energy := shown.energy.le_room read nodup_names digits
  have hops := shown.hops.le_room read nodup_names fun _ shown => Nat.le_of_eq shown.leastSize_eq.symm
  have all : 1 + (Tree.room record "type" + (Tree.room record "sender_id" + (Tree.room record "data" +
      (Tree.room record "energy" + (Tree.room record "hops" + 0))))) ≤ tree.leastSize :=
    Tree.le_leastSize_record read nodup_names
  have kindSize : (Spelling.ofText frame.kind.name).length = 11 := by
    rw [kind]
    decide
  have dataGiven := data.resolve_right fun absent => by
    have empty : (Tree.object []).leastSize = 2 := rfl
    rw [← absent, empty] at parcelSize
    omega
  have energyGiven := energy.resolve_right fun absent => by
    rw [brings.energy, ← absent] at charged
    exact absurd charged (by decide)
  rw [Parcel.leastSize]
  by_cases none : parcel.hops = 0
  · rw [if_pos none]
    omega
  · have hopsGiven := hops.resolve_right fun absent => none (brings.hops.trans absent.symm)
    rw [if_neg none, brings.hops]
    omega

end Frame

/-- No datagram brings an item with energy in fewer bytes. -/
theorem Message.leastSize_le_of_decode {bytes : ByteArray} {sender : String} {parcel : Parcel}
    (read : decode bytes = .ok (.information sender parcel)) (charged : 0 < parcel.energy.toInt) :
    parcel.leastSize sender ≤ bytes.size := by
  unfold decode at read
  split at read
  next frame found =>
    obtain ⟨tree, document, shown⟩ := (Frame.isRead_iff bytes frame).mpr found
    have size : bytes.toList.length = bytes.size := by
      rw [Text.byteArray_toList, Array.length_toList, ByteArray.size]
    have carried := (Frame.message_eq_ok_iff shown.hasMeaning_data).mp read
    generalize made : Message.information sender parcel = message at carried
    cases carried with
    | information kind brings =>
      obtain ⟨rfl, rfl⟩ := Message.information.inj made
      exact size ▸ Nat.le_trans (shown.le_leastSize kind brings charged) document.leastSize_le
    | _ => cases made
  · cases read

/-- An array of a kind, an empty name, an id in an array and a number is as short as it gets. -/
example : Message.decode "[\"information\",\"\",[\"x\"],5]".toUTF8 =
    .ok (.information "" ⟨"x", "", 5, 0⟩) ∧ Parcel.leastSize ⟨"x", "", 5, 0⟩ "" = 26 := by
  decide +kernel

end GridDiffusion
