import GridDiffusion.Network.Packet
import GridDiffusion.Proofs.Json.Tree
/-! Messages over the wire: an item arrives as it was sent wherever its datagram is short enough,
and no message arrives as one of another kind. -/
namespace GridDiffusion

open Json

/-- The document of a message once it has been read again. -/
def Frame.written (kind : MessageKind) (sender : String) (data : Tree) (energy hops : Numeral) :
    Tree :=
  .object [(.ofText "type", .text (.ofText kind.name)), (.ofText "sender_id", .text (.ofText sender)),
    (.ofText "data", data), (.ofText "energy", .number energy), (.ofText "hops", .number hops)]

theorem MessageKind.ofTree?_name (kind : MessageKind) :
    MessageKind.ofTree? (.text (.ofText kind.name)) = some kind := by
  have named : ofName? kind.name = some kind := by cases kind <;> decide
  simp [ofTree?, Tree.text?, Spelling.text?_ofText, named]

/-- The five fields of a written document are read one by one. -/
theorem Frame.ofTree?_written (kind : MessageKind) (sender : String) (data : Tree)
    (energy hops : Numeral) :
    Frame.ofTree? (written kind sender data energy hops) = (do
      let data ← readData? data
      let energy ← (Tree.number energy).int? Int64.minValue.toInt Int64.maxValue.toInt
      let hops ← (Tree.number hops).word?
      pure { kind, sender, data, energy := .ofInt energy, hops }) := by
  have kindRead := MessageKind.ofTree?_name kind
  simp [Frame.ofTree?, written, Tree.record?, Tree.members?, Tree.namedMembers?,
    Spelling.text?_ofText, Tree.hasRepeat, Record.required, Record.optional, Record.get?,
    List.lookup_cons, Tree.text?, kindRead]

theorem Frame.exists_attributes_of_map {frame : Frame} {make : Attributes → Message}
    {message : Message} (read : frame.attributes.map make = .ok message) :
    ∃ data, frame.attributes = .ok data ∧ make data = message := by
  cases attributes : frame.attributes with
  | error cause => simp [attributes, Except.map] at read
  | ok data => exact ⟨data, rfl, by simpa [attributes, Except.map] using read⟩

theorem Frame.kind_message {frame : Frame} {message : Message}
    (read : frame.message = .ok message) : message.kind = frame.kind := by
  unfold Frame.message at read
  split at read
  next named =>
    obtain ⟨data, -, rfl⟩ := exists_attributes_of_map read
    exact named.symm
  next named =>
    obtain ⟨data, -, rfl⟩ := exists_attributes_of_map read
    exact named.symm
  next named =>
    split at read <;> cases read
    exact named.symm
  next named =>
    split at read <;> cases read
    exact named.symm
  next named =>
    cases read
    exact named.symm

namespace Message

def Fits (message : Message) : Prop := message.text.utf8ByteSize ≤ datagramLimit

instance (message : Message) : Decidable message.Fits :=
  inferInstanceAs (Decidable (message.text.utf8ByteSize ≤ datagramLimit))

theorem encode_of_fits {message : Message} (fits : message.Fits) :
    message.encode = .ok message.text.toUTF8 :=
  if_pos fits

theorem overWire_eq (message : Message) : message.overWire =
    if message.Fits then decode message.text.toUTF8
    else .error (.oversized message.text.utf8ByteSize) := by
  have size : message.text.toUTF8.size = message.text.utf8ByteSize := rfl
  by_cases fits : message.Fits
  · have short : message.text.utf8ByteSize ≤ datagramLimit := fits
    simp only [overWire, encode, size, short, fits, if_true]
    rfl
  · have long : ¬ message.text.utf8ByteSize ≤ datagramLimit := fits
    simp only [overWire, encode, size, long, fits, if_false]
    rfl

theorem tree?_value (message : Message) : ∃ energy hops : Numeral,
    message.value.tree? = message.dataValue.tree?.map (fun data =>
        Frame.written message.kind message.sender data energy hops) ∧
      energy.value? = some (.int message.charge.1.toInt) ∧
      hops.value? = some (.int message.charge.2.toNat) := by
  obtain ⟨energy, energyRead, energyValue⟩ := Value.tree?_int message.charge.1.toInt
  obtain ⟨hops, hopsRead, hopsValue⟩ := Value.tree?_int message.charge.2.toNat
  have low := message.charge.1.le_toInt
  have high := message.charge.1.toInt_lt
  have bound := message.charge.2.toNat_lt
  refine ⟨energy, hops, ?_, energyValue ?_ ?_, hopsValue ?_ ?_⟩
  · simp only [value, Value.tree?, Value.treesOfMembers?, energyRead, hopsRead]
    cases message.dataValue.tree? <;> simp [Frame.written]
  all_goals simp only [maxBelowZero, maxWord64]; omega

theorem decode_text {message : Message} {data : Tree} (written : message.dataValue.tree? = some data)
    (readable : Frame.readData? data = some data) : decode message.text.toUTF8 =
      Frame.message ⟨message.kind, message.sender, data, message.charge.1, message.charge.2⟩ := by
  obtain ⟨energy, hops, tree, energyValue, hopsValue⟩ := message.tree?_value
  have low : Int64.minValue.toInt ≤ message.charge.1.toInt := message.charge.1.minValue_le_toInt
  have high : message.charge.1.toInt ≤ Int64.maxValue.toInt := message.charge.1.toInt_le
  have bound : message.charge.2.toNat ≤ maxWord64 := Nat.le_of_lt_succ message.charge.2.toNat_lt
  have energyRead : (Tree.number energy).int? Int64.minValue.toInt Int64.maxValue.toInt =
      some message.charge.1.toInt := by
    rw [Tree.int?, energyValue]
    exact if_pos ⟨low, high⟩
  have hopsRead : (Tree.number hops).word? = some message.charge.2 := by
    simp [Tree.word?, Tree.nat?, Tree.int?, hopsValue, bound]
  rw [decode, text, Tree.ofBytes?_render, tree, written, Option.map_some, Option.bind_some,
    Frame.ofTree?_written, readable, energyRead, hopsRead]
  simp

/-- A message that arrives is of the kind that was sent. -/
theorem kind_overWire {message arrived : Message} (sent : message.overWire = .ok arrived) :
    arrived.kind = message.kind := by
  obtain ⟨energy, hops, tree, -, -⟩ := message.tree?_value
  rw [overWire_eq] at sent
  split at sent
  · rw [decode, text, Tree.ofBytes?_render, tree] at sent
    split at sent
    next frame found =>
      obtain ⟨document, written, read⟩ := Option.bind_eq_some_iff.mp found
      obtain ⟨data, -, rfl⟩ := Option.map_eq_some_iff.mp written
      rw [Frame.ofTree?_written] at read
      have same : frame.kind = message.kind := by
        simp only [Option.bind_eq_bind, Option.bind_eq_some_iff, Option.pure_def,
          Option.some.injEq] at read
        obtain ⟨_, -, _, -, _, -, rfl⟩ := read
        rfl
      exact same ▸ Frame.kind_message sent
    · cases sent
  · cases sent

def parcelTree (id content : String) : Tree :=
  .object [(.ofText "content", .text (.ofText content)), (.ofText "info_id", .text (.ofText id))]

theorem tree?_parcel (sender : String) (parcel : Parcel) :
    (information sender parcel).dataValue.tree? = some (parcelTree parcel.id parcel.content) := by
  simp [dataValue, Value.tree?, Value.treesOfMembers?, parcelTree]

theorem readData?_parcelTree (id content : String) :
    Frame.readData? (parcelTree id content) = some (parcelTree id content) := by
  simp [Frame.readData?, Tree.isReadable, Frame.dataDepth, depthLimit, Value.ofTree?,
    Value.ofMembers?, Spelling.text?_ofText, parcelTree]

theorem parcel?_parcelTree (sender id content : String) (energy : Int64) (hops : UInt64) :
    Frame.parcel? ⟨.information, sender, parcelTree id content, energy, hops⟩ =
      some { id, content, energy, hops } := by
  simp [Frame.parcel?, parcelTree, Tree.record?, Tree.members?, Tree.namedMembers?,
    Tree.lastOfEach, Spelling.text?_ofText, Tree.hasRepeat, Record.required, Record.optional,
    Record.get?, List.lookup_cons, Tree.text?]

theorem decode_information (sender : String) (parcel : Parcel) :
    decode (information sender parcel).text.toUTF8 = .ok (information sender parcel) := by
  rw [decode_text (tree?_parcel sender parcel) (readData?_parcelTree ..)]
  simp [Frame.message, kind, charge, parcel?_parcelTree, Message.sender]

/-- An item arrives as it was sent, unless it is too long for a datagram. -/
theorem overWire_information (sender : String) (parcel : Parcel) :
    (information sender parcel).overWire =
      if (information sender parcel).Fits then .ok (information sender parcel)
      else .error (.oversized (information sender parcel).text.utf8ByteSize) := by
  rw [overWire_eq, decode_information]

/-- Only an item arrives as an item, and then it is the same. -/
theorem of_overWire_information {message : Message} {sender : String} {parcel : Parcel}
    (sent : message.overWire = .ok (.information sender parcel)) :
    message = .information sender parcel := by
  have kind := kind_overWire sent
  cases message with
  | information other own =>
    rw [overWire_information] at sent
    split at sent
    · exact Except.ok.inj sent
    · cases sent
  | _ => cases kind

end Message
end GridDiffusion
