import Mathlib.Algebra.Group.Int.Defs
import GridDiffusion.Proofs.Json.Width
import GridDiffusion.Proofs.Message.Wire
/-! How long messages get: the bytes of an item and of a status in terms of their parts. An item of
short texts always fits a datagram, whatever its energy and hops. -/
namespace GridDiffusion

open Json

theorem Text.length_bytes_le (text : String) : (Text.bytes text).length ≤ 4 * text.length := by
  have each (characters : List Char) :
      (characters.flatMap String.utf8EncodeChar).length ≤ 4 * characters.length := by
    induction characters with
    | nil => exact Nat.le_refl 0
    | cons character rest ih =>
      have one := character.utf8Size_le_four
      rw [List.flatMap_cons, List.length_append, List.length_cons, String.length_utf8EncodeChar]
      omega
  exact each text.toList

theorem Json.Spelling.Form.length_le {character : Char} {spelled : Spelling}
    (form : Form character spelled) :
    spelled.length ≤ 6 * (String.utf8EncodeChar character).length := by
  have positive : 0 < (String.utf8EncodeChar character).length := by
    rw [String.length_utf8EncodeChar]
    exact character.utf8Size_pos
  cases form with
  | plain all => omega
  | short apart stands same =>
    rw [same]
    exact Nat.le_of_ble_eq_true rfl
  | unit low plain stands =>
    simp only [List.length_cons, List.length_nil]
    omega

theorem Json.Spelling.length_ofText_le (text : String) :
    (ofText text).length ≤ 6 * text.utf8ByteSize := by
  have each (characters : List Char) : (characters.flatMap ofChar).length ≤
      6 * (characters.flatMap String.utf8EncodeChar).length := by
    induction characters with
    | nil => exact Nat.le_refl 0
    | cons character rest ih =>
      have first := (form_ofChar character).length_le
      rw [List.flatMap_cons, List.length_append, List.flatMap_cons, List.length_append]
      omega
  rw [← Text.length_bytes]
  exact each text.toList

theorem length_repr_word {number : Nat} (bound : number < 2 ^ 64) : number.repr.length ≤ 20 :=
  (Nat.length_repr_le_iff (by decide)).mpr (Nat.lt_trans bound (by decide))

theorem length_repr_le (number : Int) (low : -(2 ^ 64) < number) (high : number < 2 ^ 64) :
    (Text.bytes number.repr).length ≤ 84 := by
  have short : number.repr.length ≤ 21 := by
    cases number with
    | ofNat value =>
      have below : value < 2 ^ 64 := Int.ofNat_lt.1 high
      have digits : value.repr.length ≤ 20 := length_repr_word below
      exact Nat.le_succ_of_le digits
    | negSucc value =>
      have digits : value.succ.repr.length ≤ 20 := length_repr_word (by omega)
      have signed : (Int.negSucc value).repr.length = "-".length + value.succ.repr.length :=
        String.length_append ..
      have sign : "-".length = 1 := rfl
      omega
  have wide := Text.length_bytes_le number.repr
  omega

namespace Message

/-- A message takes 52 bytes besides its kind, its sender, its data and its charge. -/
theorem utf8ByteSize_text (message : Message) : message.text.utf8ByteSize =
    52 + (Spelling.ofText message.kind.name).length + (Spelling.ofText message.sender).length +
      message.dataValue.width + (Value.int message.charge.1.toInt).width +
        message.charge.2.toNat.repr.length := by
  have names : (Spelling.ofText "type").length = 4 ∧ (Spelling.ofText "sender_id").length = 9 ∧
      (Spelling.ofText "data").length = 4 ∧ (Spelling.ofText "energy").length = 6 ∧
      (Spelling.ofText "hops").length = 4 := by decide
  rw [text, Value.utf8ByteSize_render, value]
  simp only [Value.width, Value.widthOfMembers, names, Value.width_nat]
  omega

theorem utf8ByteSize_information (sender : String) (parcel : Parcel) :
    (information sender parcel).text.utf8ByteSize =
      90 + (Spelling.ofText sender).length + (Spelling.ofText parcel.id).length +
        (Spelling.ofText parcel.content).length + (Value.int parcel.energy.toInt).width +
          parcel.hops.toNat.repr.length := by
  have names : (Spelling.ofText MessageKind.information.name).length = 11 ∧
      (Spelling.ofText "content").length = 7 ∧ (Spelling.ofText "info_id").length = 7 := by decide
  rw [utf8ByteSize_text]
  simp only [kind, Message.sender, dataValue, charge, Value.width, Value.widthOfMembers, names]
  omega

/-- A status in a pong takes 153 bytes besides the sender, whether the node is alive, its numbers
and its items. Of the commas behind the items the last one is left out. -/
theorem utf8ByteSize_pong (sender : String) (status : NodeStatus) :
    (pong sender status).text.utf8ByteSize =
      153 + (Spelling.ofText sender).length + (if status.alive then 4 else 5) +
        status.generation.toNat.repr.length + status.coord.x.toNat.repr.length +
        status.coord.y.toNat.repr.length + status.itemCount.repr.length +
        status.neighbors.repr.length +
        ((status.items.entries.map fun entry => (Spelling.ofText entry.1).length +
          entry.2.energy.toNat.repr.length + entry.2.hops.toNat.repr.length + 23).sum - 1) := by
  have names : (Spelling.ofText MessageKind.pong.name).length = 4 ∧
      (Spelling.ofText "alive").length = 5 ∧ (Spelling.ofText "generation").length = 10 ∧
      (Spelling.ofText "grid_x").length = 6 ∧ (Spelling.ofText "grid_y").length = 6 ∧
      (Spelling.ofText "information").length = 11 ∧
      (Spelling.ofText "information_count").length = 17 ∧
      (Spelling.ofText "neighbors").length = 9 := by decide
  have parts : (Spelling.ofText "energy").length = 6 ∧ (Spelling.ofText "hops").length = 4 := by
    decide
  have item (summary : ItemSummary) : summary.value.width =
      19 + summary.energy.toNat.repr.length + summary.hops.toNat.repr.length := by
    simp only [ItemSummary.value, Value.width, Value.widthOfMembers, Value.width_nat, parts]
    omega
  have items : status.itemsValue.width = 2 +
      ((status.items.entries.map fun entry => (Spelling.ofText entry.1).length +
        entry.2.energy.toNat.repr.length + entry.2.hops.toNat.repr.length + 23).sum - 1) := by
    rw [NodeStatus.itemsValue, Value.width_object, Value.widthOfMembers_map]
    have each : (fun entry : String × ItemSummary =>
        (Spelling.ofText entry.1).length + entry.2.value.width + 4) =
      fun entry => (Spelling.ofText entry.1).length + entry.2.energy.toNat.repr.length +
        entry.2.hops.toNat.repr.length + 23 := by
      funext entry
      rw [item]
      omega
    rw [each]
  have zero : (Value.int (0 : Int64).toInt).width = 1 ∧ ((0 : UInt64).toNat.repr).length = 1 := by
    decide
  rw [utf8ByteSize_text]
  simp only [kind, Message.sender, dataValue, charge, NodeStatus.sortedValue, Value.width,
    Value.widthOfMembers, Value.width_nat, names, items, zero]
  omega

theorem fits_information {sender : String} {parcel : Parcel}
    (short : 6 * (sender.utf8ByteSize + parcel.id.utf8ByteSize + parcel.content.utf8ByteSize) + 300 ≤
      datagramLimit) : (information sender parcel).Fits := by
  have low := parcel.energy.le_toInt
  have high := parcel.energy.toInt_lt
  have energy : (Value.int parcel.energy.toInt).width ≤ 84 :=
    length_repr_le parcel.energy.toInt (by omega) (by omega)
  have hops := length_repr_word parcel.hops.toNat_lt
  have senderSize := Spelling.length_ofText_le sender
  have idSize := Spelling.length_ofText_le parcel.id
  have contentSize := Spelling.length_ofText_le parcel.content
  rw [Fits, utf8ByteSize_information]
  omega

theorem utf8ByteSize_peerId_le (cell : Coord) :
    cell.peerId.utf8ByteSize ≤ 86 := by
  have bound := cell.x.toNat_lt
  have other := cell.y.toNat_lt
  have column : cell.x.toNat.repr.length ≤ 10 := (Nat.length_repr_le_iff (by omega)).2 (by omega)
  have row : cell.y.toNat.repr.length ≤ 10 := (Nat.length_repr_le_iff (by omega)).2 (by omega)
  have lead : (Text.bytes "node_").length = 5 := by decide
  have mark : (Text.bytes "_").length = 1 := by decide
  have first := Text.length_bytes_le cell.x.toNat.repr
  have second := Text.length_bytes_le cell.y.toNat.repr
  rw [← Text.length_bytes, Coord.peerId, Text.bytes_append, Text.bytes_append, Text.bytes_append,
    List.length_append, List.length_append, List.length_append, lead, mark]
  omega

/-- What a cell passes on fits a datagram wherever id and content take up to ten thousand bytes. -/
theorem fits_of_cell (cell : Coord) {parcel : Parcel}
    (short : parcel.id.utf8ByteSize + parcel.content.utf8ByteSize ≤ 10000) :
    (information cell.peerId parcel).Fits := by
  have sender := utf8ByteSize_peerId_le cell
  apply fits_information
  rw [datagramLimit]
  omega

end Message
end GridDiffusion
