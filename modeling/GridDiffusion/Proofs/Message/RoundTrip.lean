import GridDiffusion.Proofs.Json.ReadBack
import GridDiffusion.Proofs.Message.Grammar
/-! Decoding undoes encoding: every message that a datagram can carry arrives as it was sent, and
what decoding gives is always such a message. -/
namespace GridDiffusion

open Json

namespace Json.Tree

theorem exists_word (word : UInt64) : ∃ numeral,
    (Value.int word.toNat).tree? = some (.number numeral) ∧ (number numeral).word? = some word := by
  have bound : word.toNat ≤ maxWord64 := Nat.le_of_lt_succ word.toNat_lt
  obtain ⟨numeral, written, read⟩ := exists_nat bound
  exact ⟨numeral, written, by simp [word?, read _ bound]⟩

end Json.Tree

theorem ItemSummary.exists_tree (summary : ItemSummary) :
    ∃ tree, summary.value.tree? = some tree ∧ ∀ repeats, ofTree? repeats tree = some summary := by
  obtain ⟨energy, energyWritten, energyRead⟩ := Tree.exists_word summary.energy
  obtain ⟨hops, hopsWritten, hopsRead⟩ := Tree.exists_word summary.hops
  refine ⟨.ofFields [("energy", .number energy), ("hops", .number hops)], ?_, fun repeats => ?_⟩
  · simp [value, Value.tree?, Value.treesOfMembers?, energyWritten, hopsWritten, Tree.ofFields]
  · simp [ofTree?, Tree.record?_ofFields, Record.required, Record.get?, List.lookup_cons, energyRead,
      hopsRead]

namespace NodeStatus

/-- Items are written as members that are read one by one as the same items. -/
theorem exists_treesOfItems (entries : List (String × ItemSummary)) :
    ∃ trees named, Value.treesOfMembers? (entries.map fun entry => (entry.1, entry.2.value)) =
        some trees ∧ Tree.namedMembers? trees = some named ∧
      named.map Prod.fst = entries.map Prod.fst ∧ ∀ repeats,
        named.mapM (fun member => (ItemSummary.ofTree? repeats member.2).map (member.1, ·)) =
          some entries := by
  induction entries with
  | nil => exact ⟨[], [], rfl, rfl, rfl, fun _ => rfl⟩
  | cons entry rest ih =>
    obtain ⟨trees, named, written, names, same, read⟩ := ih
    obtain ⟨tree, treeWritten, treeRead⟩ := entry.2.exists_tree
    refine ⟨(.ofText entry.1, tree) :: trees, (entry.1, tree) :: named, ?_, ?_, ?_, ?_⟩
    · simp [Value.treesOfMembers?, treeWritten, written]
    · rw [Tree.namedMembers?] at names
      simp [Tree.namedMembers?, Spelling.text?_ofText, names]
    · rw [List.map_cons, List.map_cons, same]
    · simp [treeRead, read]

theorem exists_itemsTree (status : NodeStatus) :
    ∃ tree, status.itemsValue.tree? = some tree ∧ ∀ repeats,
      tree.map? repeats (ItemSummary.ofTree? repeats) = some status.items.entries := by
  obtain ⟨trees, named, written, names, same, read⟩ := exists_treesOfItems status.items.entries
  have distinct : (named.map Prod.fst).Nodup := same ▸ status.items.nodup_keys
  refine ⟨.object trees, by rw [itemsValue, Value.tree?, written, Option.map_some], ?_⟩
  intro repeats
  cases repeats <;>
    simp [Tree.map?, Tree.members?, names, Tree.lastOfEach_of_nodup distinct, read]

/-- A status is read as it was from its members, in declaration order and in name order. -/
theorem exists_trees {status : NodeStatus} (items : status.itemCount ≤ maxWord64)
    (neighbors : status.neighbors ≤ maxWord64) : ∃ declared sorted,
      status.value.tree? = some declared ∧ status.sortedValue.tree? = some sorted ∧
      ∀ repeats, ofTree? repeats declared = some status ∧ ofTree? repeats sorted = some status := by
  obtain ⟨generation, generationWritten, generationRead⟩ := Tree.exists_word status.generation
  obtain ⟨x, xWritten, xRead⟩ := Tree.exists_word32 status.coord.x
  obtain ⟨y, yWritten, yRead⟩ := Tree.exists_word32 status.coord.y
  obtain ⟨count, countWritten, countRead⟩ := Tree.exists_nat items
  obtain ⟨neighbors', neighborsWritten, neighborsRead⟩ := Tree.exists_nat neighbors
  obtain ⟨held, heldWritten, heldRead⟩ := status.exists_itemsTree
  refine ⟨.ofFields [("alive", .bool status.alive), ("grid_x", .number x), ("grid_y", .number y),
    ("information_count", .number count), ("information", held), ("generation", .number generation),
    ("neighbors", .number neighbors')], .ofFields [("alive", .bool status.alive),
    ("generation", .number generation), ("grid_x", .number x), ("grid_y", .number y),
    ("information", held), ("information_count", .number count), ("neighbors", .number neighbors')],
    ?_, ?_, fun repeats => ?_⟩
  · simp [value, Value.tree?, Value.treesOfMembers?, generationWritten, xWritten, yWritten,
      countWritten, neighborsWritten, heldWritten, Tree.ofFields]
  · simp [sortedValue, Value.tree?, Value.treesOfMembers?, generationWritten, xWritten, yWritten,
      countWritten, neighborsWritten, heldWritten, Tree.ofFields]
  · simp [ofTree?, fieldNames, Tree.record?_ofFields, Record.required, Record.get?, List.lookup_cons,
      Tree.bool?, generationRead, xRead, yRead, countRead _ items, neighborsRead _ neighbors, heldRead,
      SortedMap.ofList_entries]

/-- A status is a value that reading can give: an object of numbers and of one object for each item.
-/
theorem isRead_sortedValue {status : NodeStatus} (items : status.itemCount ≤ maxWord64)
    (neighbors : status.neighbors ≤ maxWord64) : status.sortedValue.IsRead Frame.dataDepth := by
  have number {amount depth : Nat} (bound : amount ≤ maxWord64) :
      (Value.int amount).IsRead depth := by
    refine ⟨?_, Nat.zero_le _⟩
    simp only [Value.int, Value.every, Value.isRegular, Bool.and_eq_true, decide_eq_true_eq]
    omega
  have word {depth : Nat} (word : UInt64) : (Value.int word.toNat).IsRead depth :=
    number (Nat.le_of_lt_succ word.toNat_lt)
  have half {depth : Nat} (word : UInt32) : (Value.int word.toNat).IsRead depth :=
    number (Nat.le_trans (Nat.le_of_lt word.toNat_lt) (by decide))
  have summary (summary : ItemSummary) : summary.value.IsRead (Frame.dataDepth - 2) := by
    have names : ["energy", "hops"].Pairwise fun earlier later => compare earlier later = .lt := by
      decide +kernel
    apply Value.isRead_object_iff.mpr
    refine ⟨Value.ordered_iff_names.mpr names, ?_⟩
    simp only [List.forall_mem_cons]
    exact ⟨word _, word _, List.forall_mem_nil _⟩
  have held : status.itemsValue.IsRead (Frame.dataDepth - 1) := by
    apply Value.isRead_object_iff.mpr
    refine ⟨List.pairwise_map.mpr status.items.sorted, fun member inside => ?_⟩
    obtain ⟨entry, -, rfl⟩ := List.mem_map.mp inside
    exact summary entry.2
  have names : ["alive", "generation", "grid_x", "grid_y", "information", "information_count",
      "neighbors"].Pairwise fun earlier later => compare earlier later = .lt := by
    decide +kernel
  apply Value.isRead_object_iff.mpr
  refine ⟨Value.ordered_iff_names.mpr names, ?_⟩
  simp only [List.forall_mem_cons]
  exact ⟨⟨rfl, Nat.zero_le _⟩, word _, half _, half _, held, number items, number neighbors,
    List.forall_mem_nil _⟩

theorem isNoDouble_sortedValue (status : NodeStatus) :
    status.sortedValue.every Value.isNoDouble = true := by
  have held : Value.everyMember Value.isNoDouble
      (status.items.entries.map fun entry => (entry.1, entry.2.value)) = true := by
    refine Value.everyMember_iff.mpr fun member inside => ?_
    obtain ⟨entry, -, rfl⟩ := List.mem_map.mp inside
    rfl
  simp [sortedValue, itemsValue, Value.every, Value.everyMember, Value.isNoDouble, Value.int, held]

end NodeStatus

namespace Message

/-- What a datagram can carry: data as reading leaves them, and counts of 64 bits. -/
def IsCarried : Message → Prop
  | ping _ data | heartbeat _ data => (Value.object data).IsRead Frame.dataDepth
  | pong _ status => status.itemCount ≤ maxWord64 ∧ status.neighbors ≤ maxWord64
  | information .. | die _ => True

def hasNoDouble : Message → Bool
  | ping _ data | heartbeat _ data => (Value.object data).every Value.isNoDouble
  | pong .. | information .. | die _ => true

theorem encode_eq_error_iff {message : Message} {cause : CodecError} :
    message.encode = .error cause ↔
      cause = .oversized message.text.utf8ByteSize ∧ datagramLimit < message.text.utf8ByteSize := by
  have size : message.text.toUTF8.size = message.text.utf8ByteSize := rfl
  simp only [encode, size]
  split
  next short =>
    constructor
    · intro failed
      cases failed
    · intro long
      exact absurd long.2 (Nat.not_lt_of_le short)
  next long =>
    rw [Except.error.injEq]
    exact ⟨fun same => ⟨same.symm, Nat.lt_of_not_le long⟩, fun same => same.1.symm⟩

theorem readData?_of_ofTree? {tree : Tree} {value : Value}
    (read : Value.ofTree? Frame.dataDepth tree = some value) :
    Frame.readData? tree = some tree := by
  rw [Frame.readData?, Tree.isReadable, read, Option.isSome_some, if_pos rfl]

theorem exists_attributes {data : Attributes} (read : (Value.object data).IsRead Frame.dataDepth)
    (whole : (Value.object data).every Value.isNoDouble = true) :
    ∃ tree, (Value.object data).tree? = some tree ∧ Frame.readData? tree = some tree ∧
      ∀ kind sender energy hops,
        Frame.attributes ⟨kind, sender, tree, energy, hops⟩ = .ok data := by
  obtain ⟨tree, written, back⟩ := Value.exists_tree _ read whole
  exact ⟨tree, written, readData?_of_ofTree? back, fun _ _ _ _ => by rw [Frame.attributes, back]⟩

/-- The data of a message that is carried whole are read as they were written. -/
theorem exists_data {message : Message} (carried : message.IsCarried)
    (whole : message.hasNoDouble = true) :
    ∃ data, message.dataValue.tree? = some data ∧ Frame.readData? data = some data ∧
      Frame.message ⟨message.kind, message.sender, data, message.charge.1, message.charge.2⟩ =
        .ok message := by
  cases message with
  | ping sender data | heartbeat sender data =>
    obtain ⟨tree, written, readable, read⟩ := exists_attributes carried whole
    refine ⟨tree, written, readable, ?_⟩
    simp [Frame.message, kind, read, Except.map, Message.sender]
  | pong sender status =>
    obtain ⟨_, tree, -, written, both⟩ := NodeStatus.exists_trees carried.1 carried.2
    obtain ⟨-, read⟩ := both .lastWins
    obtain ⟨same, rewritten, back⟩ := Value.exists_tree status.sortedValue
      (status.isRead_sortedValue carried.1 carried.2) status.isNoDouble_sortedValue
    obtain rfl := Option.some.inj (written.symm.trans rewritten)
    refine ⟨tree, written, readData?_of_ofTree? back, ?_⟩
    simp [Frame.message, kind, read, Message.sender]
  | information sender parcel =>
    refine ⟨_, tree?_parcel sender parcel, readData?_parcelTree .., ?_⟩
    simp [Frame.message, kind, charge, parcel?_parcelTree, Message.sender]
  | die sender => exact ⟨.object [], rfl, rfl, rfl⟩

theorem decode_of_encode {message : Message} (carried : message.IsCarried)
    (whole : message.hasNoDouble = true) {bytes : ByteArray} (encoded : message.encode = .ok bytes) :
    decode bytes = .ok message := by
  obtain ⟨data, written, readable, read⟩ := exists_data carried whole
  have sent : bytes = message.text.toUTF8 := by
    simp only [encode] at encoded
    split at encoded
    · exact (Except.ok.inj encoded).symm
    · cases encoded
  rw [sent, decode_text written readable, read]

theorem isCarried_of_decode {bytes : ByteArray} {message : Message}
    (decoded : decode bytes = .ok message) : message.IsCarried := by
  unfold decode at decoded
  split at decoded
  next frame found =>
    obtain ⟨tree, -, isFrame⟩ := (Frame.isRead_iff bytes frame).mpr found
    have meaning := isFrame.hasMeaning_data
    have attributes {data : Attributes} (shown : frame.HasAttributes data) :
        (Value.object data).IsRead Frame.dataDepth := by
      rcases shown with ⟨-, rfl⟩ | denotes
      · exact Value.isRead_object_iff.mpr ⟨.nil, List.forall_mem_nil _⟩
      · exact Value.isRead_of_ofTree? frame.data (Tree.ofTree?_eq_some_iff.mpr ⟨meaning, denotes⟩)
    cases (Frame.message_eq_ok_iff meaning).mp decoded with
    | ping _ shown => exact attributes shown
    | heartbeat _ shown => exact attributes shown
    | pong _ shown =>
      obtain ⟨_, -, -, items⟩ := shown.itemCount
      obtain ⟨_, -, -, neighbors⟩ := shown.neighbors
      exact ⟨items, neighbors⟩
    | information => trivial
    | die => trivial
  · cases decoded

/-- Decoding undoes encoding. Encoding fails for messages that are too long and for no other. What
is encoded of a message that a datagram can carry, if no number in it is a double, is decoded as
that message; and only such messages are ever decoded, so what was decoded arrives again when it is
sent on, unless it has become too long. -/
theorem decode_encode :
    (∀ (message : Message) cause, message.encode = .error cause ↔
      cause = .oversized message.text.utf8ByteSize ∧ datagramLimit < message.text.utf8ByteSize) ∧
    (∀ (message : Message) bytes, message.IsCarried → message.hasNoDouble = true →
      message.encode = .ok bytes → decode bytes = .ok message) ∧
    ∀ bytes message, decode bytes = .ok message → message.IsCarried ∧
      (message.hasNoDouble = true → message.encode = .error (.oversized message.text.utf8ByteSize) ∨
        ∃ again, message.encode = .ok again ∧ decode again = .ok message) := by
  refine ⟨fun message cause => encode_eq_error_iff, fun message bytes carried whole encoded =>
    decode_of_encode carried whole encoded, fun bytes message decoded => ?_⟩
  have carried := isCarried_of_decode decoded
  refine ⟨carried, fun whole => ?_⟩
  cases encoded : message.encode with
  | error cause => exact .inl (by rw [(encode_eq_error_iff.mp encoded).1])
  | ok again => exact .inr ⟨again, rfl, decode_of_encode carried whole encoded⟩

/-- A sign of life with an escaped name, data in name order and the least and the greatest number.
-/
def signOfLife : Message :=
  .heartbeat "a\"\n"
    [("low", .int (-9223372036854775808)), ("π", .array [.int 18446744073709551615, .object []])]

theorem decode_encode_signOfLife : ∃ bytes, signOfLife.IsCarried ∧ signOfLife.hasNoDouble = true ∧
    signOfLife.encode = .ok bytes ∧ decode bytes = .ok signOfLife := by
  have carried : signOfLife.IsCarried := ⟨by decide +kernel, by decide⟩
  have whole : signOfLife.hasNoDouble = true := by decide
  have short : signOfLife.text.utf8ByteSize ≤ datagramLimit := by
    simp only [signOfLife, text, value, dataValue, Value.render, Value.write, Value.writeMembers,
      Value.writeItems, Value.writeText, String.foldl_eq_foldl_toList]
    decide +kernel
  have encoded : signOfLife.encode = .ok signOfLife.text.toUTF8 := if_pos short
  exact ⟨_, carried, whole, encoded, decode_encode.2.1 _ _ carried whole encoded⟩

end Message
end GridDiffusion
