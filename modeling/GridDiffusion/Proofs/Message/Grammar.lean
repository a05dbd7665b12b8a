import GridDiffusion.Proofs.Json.Denotation
import GridDiffusion.Proofs.Json.Grammar
import GridDiffusion.Proofs.Message.Wire
/-! The grammar of datagrams: which bytes are a frame, which frames are a message and of what, and
which error tells about all other bytes. -/
namespace GridDiffusion

open Json

/-- The name of a kind, alone or as the one member of an object, with null. -/
inductive MessageKind.IsNamed (kind : MessageKind) : Tree → Prop
  | text {tree : Tree} (named : tree.IsText kind.name) : IsNamed kind tree
  | object {spelling : Spelling} (named : spelling.Means kind.name.toList) :
    IsNamed kind (.object [(spelling, .null)])

theorem MessageKind.ofName?_eq_some_iff {name : String} {kind : MessageKind} :
    ofName? name = some kind ↔ name = kind.name := by
  constructor
  · intro found
    rw [ofName?] at found
    have same := List.find?_some found
    exact (eq_of_beq same).symm
  · rintro rfl
    cases kind <;> decide

theorem MessageKind.ofTree?_eq_some_iff {tree : Tree} {kind : MessageKind} :
    ofTree? tree = some kind ↔ kind.IsNamed tree := by
  constructor
  · intro read
    unfold ofTree? at read
    split at read <;> obtain ⟨name, text, named⟩ := Option.bind_eq_some_iff.mp read <;>
      cases ofName?_eq_some_iff.mp named
    · exact .object (Spelling.text?_eq_some_iff.mp text)
    · exact .text (Tree.text?_eq_some_iff.mp text)
  · intro shown
    cases shown with
    | text named =>
      have text := Tree.text?_eq_some_iff.mpr named
      cases named
      exact Option.bind_eq_some_iff.mpr ⟨_, text, ofName?_eq_some_iff.mpr rfl⟩
    | object named =>
      have text := Spelling.text?_eq_some_iff.mpr named
      exact Option.bind_eq_some_iff.mpr ⟨_, text, ofName?_eq_some_iff.mpr rfl⟩

theorem Json.Tree.word?_eq_some_iff {tree : Tree} {word : UInt64} :
    tree.word? = some word ↔ tree.IsWhole word.toNat := by
  rw [word?, Option.map_eq_some_iff]
  constructor
  · rintro ⟨amount, read, rfl⟩
    obtain ⟨whole, bound⟩ := (nat?_eq_some_iff (Nat.le_refl _)).mp read
    rwa [Nat.toUInt64_eq, UInt64.toNat_ofNat_of_lt' (Nat.lt_succ_of_le bound)]
  · intro whole
    have bound : word.toNat ≤ maxWord64 := Nat.le_of_lt_succ word.toNat_lt
    exact ⟨word.toNat, (nat?_eq_some_iff (Nat.le_refl _)).mpr ⟨whole, bound⟩, by simp⟩

structure ItemSummary.IsOf (summary : ItemSummary) (tree : Tree) : Prop where
  record : tree.IsRecord .lastWins ["energy", "hops"]
  energy : tree.Requires ["energy", "hops"] "energy" (Tree.IsWhole summary.energy.toNat)
  hops : tree.Requires ["energy", "hops"] "hops" (Tree.IsWhole summary.hops.toNat)

theorem ItemSummary.ofTree?_eq_some_iff {tree : Tree} {summary : ItemSummary} :
    ofTree? .lastWins tree = some summary ↔ summary.IsOf tree := by
  have distinct : ["energy", "hops"].Nodup := by decide
  constructor
  · intro read
    simp only [ofTree?, Option.bind_eq_bind, Option.bind_eq_some_iff, Option.pure_def,
      Option.some.injEq] at read
    obtain ⟨record, found, energy, energyRead, hops, hopsRead, rfl⟩ := read
    exact {
      record := Tree.isSome_record?_iff.mp (Option.isSome_of_eq_some found)
      energy := (Tree.required_eq_some_iff found distinct fun _ => Tree.word?_eq_some_iff).mp
        energyRead
      hops := (Tree.required_eq_some_iff found distinct fun _ => Tree.word?_eq_some_iff).mp
        hopsRead }
  · intro shown
    obtain ⟨record, found⟩ := Option.isSome_iff_exists.mp (Tree.isSome_record?_iff.mpr shown.record)
    have energy := (Tree.required_eq_some_iff found distinct fun _ =>
      Tree.word?_eq_some_iff).mpr shown.energy
    have hops := (Tree.required_eq_some_iff found distinct fun _ =>
      Tree.word?_eq_some_iff).mpr shown.hops
    simp [ofTree?, found, energy, hops]

structure NodeStatus.IsOf (status : NodeStatus) (tree : Tree) : Prop where
  record : tree.IsRecord .lastWins fieldNames
  alive : tree.Requires fieldNames "alive" (· = .bool status.alive)
  x : tree.Requires fieldNames "grid_x" (Tree.IsWhole status.coord.x.toNat)
  y : tree.Requires fieldNames "grid_y" (Tree.IsWhole status.coord.y.toNat)
  itemCount : tree.Requires fieldNames "information_count" fun field =>
    field.IsWhole status.itemCount ∧ status.itemCount ≤ maxWord64
  items : tree.Requires fieldNames "information"
    (Tree.IsMap (fun field summary => summary.IsOf field) status.items)
  generation : tree.Requires fieldNames "generation" (Tree.IsWhole status.generation.toNat)
  neighbors : tree.Requires fieldNames "neighbors" fun field =>
    field.IsWhole status.neighbors ∧ status.neighbors ≤ maxWord64

theorem NodeStatus.nodup_fieldNames : fieldNames.Nodup := by decide

theorem NodeStatus.isOf_of_ofTree? {tree : Tree} {status : NodeStatus}
    (read : ofTree? .lastWins tree = some status) : status.IsOf tree := by
  simp only [ofTree?, Option.bind_eq_bind, Option.bind_eq_some_iff, Option.pure_def,
    Option.some.injEq] at read
  obtain ⟨record, found, alive, aliveRead, x, xRead, y, yRead, count, countRead, items, itemsRead,
    generation, generationRead, neighbors, neighborsRead, rfl⟩ := read
  exact {
    record := Tree.isSome_record?_iff.mp (Option.isSome_of_eq_some found)
    alive := Tree.requires_of_required found nodup_fieldNames aliveRead fun _ =>
      Tree.bool?_eq_some_iff.mp
    x := Tree.requires_of_required found nodup_fieldNames xRead fun _ => Tree.isWhole_of_nat?
    y := Tree.requires_of_required found nodup_fieldNames yRead fun _ => Tree.isWhole_of_nat?
    itemCount := Tree.requires_of_required found nodup_fieldNames countRead fun _ =>
      (Tree.nat?_eq_some_iff (Nat.le_refl _)).mp
    items := Tree.requires_of_required found nodup_fieldNames itemsRead fun _ value =>
      (Tree.map?_eq_some_iff fun _ _ => ItemSummary.ofTree?_eq_some_iff).mp
        (congrArg (Option.map SortedMap.ofList) value)
    generation := Tree.requires_of_required found nodup_fieldNames generationRead fun _ =>
      Tree.word?_eq_some_iff.mp
    neighbors := Tree.requires_of_required found nodup_fieldNames neighborsRead fun _ =>
      (Tree.nat?_eq_some_iff (Nat.le_refl _)).mp }

theorem NodeStatus.IsOf.ofTree? {tree : Tree} {status : NodeStatus} (shown : status.IsOf tree) :
    NodeStatus.ofTree? .lastWins tree = some status := by
  obtain ⟨record, found⟩ := Option.isSome_iff_exists.mp (Tree.isSome_record?_iff.mpr shown.record)
  have alive := Tree.required_of_requires found nodup_fieldNames shown.alive fun _ =>
    Tree.bool?_eq_some_iff.mpr
  have x := Tree.required_of_requires found nodup_fieldNames shown.x fun _ => Tree.nat?_toNat
  have y := Tree.required_of_requires found nodup_fieldNames shown.y fun _ => Tree.nat?_toNat
  have count := Tree.required_of_requires found nodup_fieldNames shown.itemCount fun _ =>
    (Tree.nat?_eq_some_iff (Nat.le_refl _)).mpr
  have generation := Tree.required_of_requires found nodup_fieldNames shown.generation fun _ =>
    Tree.word?_eq_some_iff.mpr
  have neighbors := Tree.required_of_requires found nodup_fieldNames shown.neighbors fun _ =>
    (Tree.nat?_eq_some_iff (Nat.le_refl _)).mpr
  -- The list of items that is read is not given by the map, so it is taken from the field itself.
  obtain ⟨field, gives, isMap⟩ := shown.items
  obtain ⟨pairs, value, same⟩ := Option.map_eq_some_iff.mp
    ((Tree.map?_eq_some_iff fun _ _ => ItemSummary.ofTree?_eq_some_iff).mpr isMap)
  have items := Tree.required_of_requires found nodup_fieldNames ⟨field, gives, value⟩
    fun _ => id
  simp only [NodeStatus.ofTree?, found, alive, x, y, count, items, generation, neighbors, same,
    Option.bind_eq_bind, Option.bind_some, Option.pure_def, Nat.toUInt32_eq, UInt32.ofNat_toNat]

theorem NodeStatus.ofTree?_eq_some_iff {tree : Tree} {status : NodeStatus} :
    ofTree? .lastWins tree = some status ↔ status.IsOf tree :=
  ⟨isOf_of_ofTree?, IsOf.ofTree?⟩

namespace Frame

def names : List String := ["type", "sender_id", "data", "energy", "hops"]

/-- A frame, as a record of its five fields that repeats none of them. -/
structure IsOf (frame : Frame) (tree : Tree) : Prop where
  record : tree.IsRecord .refused names
  kind : tree.Requires names "type" frame.kind.IsNamed
  sender : tree.Requires names "sender_id" (Tree.IsText frame.sender)
  data : tree.Permits names "data" (.object [] = frame.data) fun field =>
    field = frame.data ∧ field.HasMeaning dataDepth
  energy : tree.Permits names "energy" (0 = frame.energy) (Tree.IsWhole frame.energy.toInt)
  hops : tree.Permits names "hops" (0 = frame.hops) (Tree.IsWhole frame.hops.toNat)

theorem readData?_eq_some_iff {tree data : Tree} :
    readData? tree = some data ↔ tree = data ∧ tree.HasMeaning dataDepth := by
  rw [readData?, Option.ite_none_right_eq_some, Option.some.injEq, Tree.isReadable,
    Tree.isReadable_iff, and_comm]

theorem map_optional {Result Changed : Type} (record : Record) (name : String) (absent : Result)
    (read : Tree → Option Result) (change : Result → Changed) :
    (record.optional name absent read).map change =
      record.optional name (change absent) fun field => (read field).map change := by
  unfold Record.optional
  cases record.get? name <;> rfl

theorem energy?_eq_some_iff {tree : Tree} {energy : Int64} :
    (tree.int? Int64.minValue.toInt Int64.maxValue.toInt).map Int64.ofInt = some energy ↔
      tree.IsWhole energy.toInt := by
  have lowest : -(maxBelowZero : Int) ≤ Int64.minValue.toInt := by decide
  have highest : Int64.maxValue.toInt ≤ maxWord64 := by decide
  rw [Option.map_eq_some_iff]
  constructor
  · rintro ⟨value, read, rfl⟩
    obtain ⟨whole, low, high⟩ := (Tree.int?_eq_some_iff lowest highest).mp read
    have same : (Int64.ofInt value).toInt = value :=
      Int64.toInt_ofInt_of_le low (Int.lt_add_one_of_le high)
    rwa [same]
  · intro whole
    have range := And.intro energy.minValue_le_toInt energy.toInt_le
    exact ⟨energy.toInt, (Tree.int?_eq_some_iff lowest highest).mpr ⟨whole, range⟩,
      energy.ofInt_toInt⟩

theorem nodup_names : names.Nodup := by decide

theorem isOf_of_ofTree? {tree : Tree} {frame : Frame} (read : ofTree? tree = some frame) :
    frame.IsOf tree := by
  simp only [ofTree?, Option.bind_eq_bind, Option.bind_eq_some_iff, Option.pure_def,
    Option.some.injEq] at read
  obtain ⟨record, found, kind, kindRead, sender, senderRead, data, dataRead, energy, energyRead,
    hops, hopsRead, rfl⟩ := read
  have charge := (map_optional record "energy" 0 _ Int64.ofInt).symm.trans
    (congrArg (Option.map Int64.ofInt) energyRead)
  exact {
    record := Tree.isSome_record?_iff.mp (Option.isSome_of_eq_some found)
    kind := (Tree.required_eq_some_iff found nodup_names fun _ =>
      MessageKind.ofTree?_eq_some_iff).mp kindRead
    sender := (Tree.required_eq_some_iff found nodup_names fun _ => Tree.text?_eq_some_iff).mp
      senderRead
    data := (Tree.optional_eq_some_iff found nodup_names fun _ => readData?_eq_some_iff).mp dataRead
    energy := (Tree.optional_eq_some_iff found nodup_names fun _ => energy?_eq_some_iff).mp charge
    hops := (Tree.optional_eq_some_iff found nodup_names fun _ => Tree.word?_eq_some_iff).mp
      hopsRead }

theorem IsOf.ofTree? {tree : Tree} {frame : Frame} (shown : frame.IsOf tree) :
    Frame.ofTree? tree = some frame := by
  obtain ⟨record, found⟩ := Option.isSome_iff_exists.mp (Tree.isSome_record?_iff.mpr shown.record)
  have kind := (Tree.required_eq_some_iff found nodup_names fun _ =>
    MessageKind.ofTree?_eq_some_iff).mpr shown.kind
  have sender := (Tree.required_eq_some_iff found nodup_names fun _ =>
    Tree.text?_eq_some_iff).mpr shown.sender
  have data := (Tree.optional_eq_some_iff found nodup_names fun _ =>
    readData?_eq_some_iff).mpr shown.data
  have hops := (Tree.optional_eq_some_iff found nodup_names fun _ =>
    Tree.word?_eq_some_iff).mpr shown.hops
  have charge := (Tree.optional_eq_some_iff found nodup_names fun _ =>
    energy?_eq_some_iff).mpr shown.energy
  -- The reader turns the amount into a word only at the end, with the default already in place.
  have absent : (0 : Int64) = Int64.ofInt 0 := rfl
  rw [absent, ← map_optional, Option.map_eq_some_iff] at charge
  obtain ⟨amount, amountRead, same⟩ := charge
  rw [Frame.ofTree?, ← names, found]
  simp only [kind, sender, data, amountRead, hops, same, Option.bind_eq_bind, Option.bind_some,
    Option.pure_def]

theorem ofTree?_eq_some_iff {tree : Tree} {frame : Frame} :
    ofTree? tree = some frame ↔ frame.IsOf tree :=
  ⟨isOf_of_ofTree?, IsOf.ofTree?⟩

theorem IsOf.hasMeaning_data {frame : Frame} {tree : Tree} (shown : frame.IsOf tree) :
    frame.data.HasMeaning dataDepth := by
  rcases shown.data with ⟨field, -, rfl, meaning⟩ | ⟨-, absent⟩
  · exact meaning
  · rw [← absent]
    exact .object nofun nofun

/-- The bytes of a datagram are a document, and its value is the frame. -/
def IsRead (frame : Frame) (datagram : ByteArray) : Prop :=
  ∃ tree : Tree, tree.IsDocument datagram.toList ∧ frame.IsOf tree

/-- The data as an object with these members, or as null without any. -/
def HasAttributes (frame : Frame) (data : Attributes) : Prop :=
  frame.data = .null ∧ data = [] ∨ frame.data.Denotes (.object data)

/-- The data as an item: a record of an id and, where it has some, its content. -/
structure HasParcel (frame : Frame) (parcel : Parcel) : Prop where
  record : frame.data.IsRecord .lastWins ["info_id", "content"]
  id : frame.data.Requires ["info_id", "content"] "info_id" (Tree.IsText parcel.id)
  content : frame.data.Permits ["info_id", "content"] "content" ("" = parcel.content)
    (Tree.IsText parcel.content)
  energy : parcel.energy = frame.energy
  hops : parcel.hops = frame.hops

/-- What a frame says, by its kind. -/
inductive Carries (frame : Frame) : Message → Prop
  | ping {data : Attributes} (kind : frame.kind = .ping) (attributes : frame.HasAttributes data) :
    Carries frame (.ping frame.sender data)
  | pong {status : NodeStatus} (kind : frame.kind = .pong) (shown : status.IsOf frame.data) :
    Carries frame (.pong frame.sender status)
  | information {parcel : Parcel} (kind : frame.kind = .information)
    (shown : frame.HasParcel parcel) : Carries frame (.information frame.sender parcel)
  | heartbeat {data : Attributes} (kind : frame.kind = .heartbeat)
    (attributes : frame.HasAttributes data) : Carries frame (.heartbeat frame.sender data)
  | die (kind : frame.kind = .die) : Carries frame (.die frame.sender)

/-- The data suit the kind: an object or null, a full status, an item, or anything. -/
def Suits (frame : Frame) : Prop :=
  match frame.kind with
  | .ping | .heartbeat => frame.data = .null ∨ ∃ members, frame.data = .object members
  | .pong => ∃ status : NodeStatus, status.IsOf frame.data
  | .information => ∃ parcel, frame.HasParcel parcel
  | .die => True

/-- What is told of data that do not suit the kind. -/
def refusal (frame : Frame) : CodecError :=
  match frame.kind with
  | .pong | .information => .payload frame.kind
  | _ => .notAnObject frame.kind

theorem attributes_eq_ok_iff {frame : Frame} (meaning : frame.data.HasMeaning dataDepth)
    {data : Attributes} : frame.attributes = .ok data ↔ frame.HasAttributes data := by
  have stands {value : Value} :
      frame.data.Denotes value ↔ Value.ofTree? dataDepth frame.data = some value := by
    rw [Tree.ofTree?_eq_some_iff, and_iff_right meaning]
  rw [HasAttributes, ← Tree.denotes_null_iff, stands, stands, attributes]
  split
  next members read => simp [read]
  next read => simp [read, eq_comm]
  next value other absent =>
    refine iff_of_false nofun ?_
    rintro (⟨read, -⟩ | read)
    · exact absent read
    · exact other _ read

theorem parcel?_eq_some_iff {frame : Frame} {parcel : Parcel} :
    frame.parcel? = some parcel ↔ frame.HasParcel parcel := by
  have distinct : ["info_id", "content"].Nodup := by decide
  constructor
  · intro read
    simp only [parcel?, Option.bind_eq_bind, Option.bind_eq_some_iff, Option.pure_def,
      Option.some.injEq] at read
    obtain ⟨record, found, id, idRead, content, contentRead, rfl⟩ := read
    exact {
      record := Tree.isSome_record?_iff.mp (Option.isSome_of_eq_some found)
      id := (Tree.required_eq_some_iff found distinct fun _ =>
        Tree.text?_eq_some_iff).mp idRead
      content := (Tree.optional_eq_some_iff found distinct fun _ =>
        Tree.text?_eq_some_iff).mp contentRead
      energy := rfl
      hops := rfl }
  · intro shown
    obtain ⟨record, found⟩ := Option.isSome_iff_exists.mp (Tree.isSome_record?_iff.mpr shown.record)
    have id := (Tree.required_eq_some_iff found distinct fun _ =>
      Tree.text?_eq_some_iff).mpr shown.id
    have content := (Tree.optional_eq_some_iff found distinct fun _ =>
      Tree.text?_eq_some_iff).mpr shown.content
    simp [parcel?, found, id, content, ← shown.energy, ← shown.hops]

theorem message_eq_ok_iff {frame : Frame} (meaning : frame.data.HasMeaning dataDepth)
    {message : Message} : frame.message = .ok message ↔ frame.Carries message := by
  constructor
  · intro read
    unfold Frame.message at read
    split at read
    next kind =>
      obtain ⟨data, attributes, rfl⟩ := exists_attributes_of_map read
      exact .ping kind ((attributes_eq_ok_iff meaning).mp attributes)
    next kind =>
      obtain ⟨data, attributes, rfl⟩ := exists_attributes_of_map read
      exact .heartbeat kind ((attributes_eq_ok_iff meaning).mp attributes)
    next kind =>
      split at read
      next status found =>
        cases read
        exact .pong kind (NodeStatus.ofTree?_eq_some_iff.mp found)
      · cases read
    next kind =>
      split at read
      next parcel found =>
        cases read
        exact .information kind (parcel?_eq_some_iff.mp found)
      · cases read
    next kind =>
      cases read
      exact .die kind
  · intro shown
    unfold Frame.message
    cases shown with
    | ping kind attributes => rw [kind, (attributes_eq_ok_iff meaning).mpr attributes]; rfl
    | pong kind status => rw [kind, NodeStatus.ofTree?_eq_some_iff.mpr status]
    | information kind parcel => rw [kind, parcel?_eq_some_iff.mpr parcel]
    | heartbeat kind attributes => rw [kind, (attributes_eq_ok_iff meaning).mpr attributes]; rfl
    | die kind => rw [kind]

theorem cause_of_attributes {frame : Frame} {make : Attributes → Message} {cause : CodecError}
    (read : frame.attributes.map make = .error cause) : cause = .notAnObject frame.kind := by
  unfold attributes at read
  split at read <;> cases read
  rfl

theorem refusal_of_message {frame : Frame} {cause : CodecError}
    (read : frame.message = .error cause) : cause = frame.refusal := by
  unfold Frame.message at read
  unfold refusal
  split at read
  next kind => simpa [kind] using cause_of_attributes read
  next kind => simpa [kind] using cause_of_attributes read
  next kind => split at read <;> cases read; rw [kind]
  next kind => split at read <;> cases read; rw [kind]
  next kind => cases read

theorem exists_carries_iff {frame : Frame} (meaning : frame.data.HasMeaning dataDepth) :
    (∃ message, frame.Carries message) ↔ frame.Suits := by
  have attributes : (∃ data, frame.HasAttributes data) ↔
      frame.data = .null ∨ ∃ members, frame.data = .object members := by
    rw [← Tree.exists_denotes_object_iff meaning]
    simp only [HasAttributes, exists_or, exists_and_left, exists_eq, and_true]
  unfold Suits
  constructor
  · rintro ⟨message, shown⟩
    cases shown with
    | ping kind shown => rw [kind]; exact attributes.mp ⟨_, shown⟩
    | pong kind shown => rw [kind]; exact ⟨_, shown⟩
    | information kind shown => rw [kind]; exact ⟨_, shown⟩
    | heartbeat kind shown => rw [kind]; exact attributes.mp ⟨_, shown⟩
    | die kind => rw [kind]; trivial
  · intro suits
    split at suits
    next kind =>
      obtain ⟨data, shown⟩ := attributes.mpr suits
      exact ⟨_, .ping kind shown⟩
    next kind =>
      obtain ⟨data, shown⟩ := attributes.mpr suits
      exact ⟨_, .heartbeat kind shown⟩
    next kind =>
      obtain ⟨status, shown⟩ := suits
      exact ⟨_, .pong kind shown⟩
    next kind =>
      obtain ⟨parcel, shown⟩ := suits
      exact ⟨_, .information kind shown⟩
    next kind => exact ⟨_, .die kind⟩

theorem message_eq_error_iff {frame : Frame} (meaning : frame.data.HasMeaning dataDepth)
    {cause : CodecError} :
    frame.message = .error cause ↔ ¬ frame.Suits ∧ cause = frame.refusal := by
  rw [← exists_carries_iff meaning]
  simp only [← message_eq_ok_iff meaning]
  cases read : frame.message with
  | ok message => simp
  | error actual => simp [refusal_of_message read, eq_comm]

/-- A datagram is at most one frame. -/
theorem isRead_iff (datagram : ByteArray) (frame : Frame) : frame.IsRead datagram ↔
    (Tree.ofBytes? datagram.toList).bind ofTree? = some frame := by
  simp only [Option.bind_eq_some_iff, Tree.ofBytes?_eq_some_iff, ofTree?_eq_some_iff, IsRead]

end Frame

/-- Decoding reads exactly the grammar of datagrams: it succeeds if the bytes are a frame whose data
suit its kind, and then gives what the frame says. It fails with an error of the form if there is no
frame, and with one of the data if there is a frame and its data do not suit. -/
theorem Message.decode_grammar (datagram : ByteArray) :
    ((∃ message, decode datagram = .ok message) ↔
      ∃ frame : Frame, frame.IsRead datagram ∧ frame.Suits) ∧
    (∀ message, decode datagram = .ok message ↔
      ∃ frame : Frame, frame.IsRead datagram ∧ frame.Carries message) ∧
    ∀ cause, decode datagram = .error cause ↔
      (∀ frame : Frame, ¬ frame.IsRead datagram) ∧ cause = .malformed ∨
        ∃ frame : Frame, frame.IsRead datagram ∧ ¬ frame.Suits ∧ cause = frame.refusal := by
  have reads := Frame.isRead_iff datagram
  unfold decode
  cases found : (Tree.ofBytes? datagram.toList).bind Frame.ofTree? with
  | none => simp [reads, found, eq_comm]
  | some frame =>
    obtain ⟨tree, -, shown⟩ := (reads frame).mpr found
    have meaning := shown.hasMeaning_data
    have only {property : Frame → Prop} :
        (∃ other : Frame, other.IsRead datagram ∧ property other) ↔ property frame := by
      simp [reads, found]
    have present : ¬ ∀ other : Frame, ¬ other.IsRead datagram :=
      fun absent => absent frame ((reads frame).mpr found)
    refine ⟨?_, fun message => ?_, fun cause => ?_⟩
    · rw [only, ← Frame.exists_carries_iff meaning]
      exact exists_congr fun message => Frame.message_eq_ok_iff meaning
    · rw [only, Frame.message_eq_ok_iff meaning]
    · rw [only, Frame.message_eq_error_iff meaning]
      simp [present]

/-- Of a name that is repeated in the data of a ping the last value stays. -/
example : Message.decode
    "\x7b\"type\":\"ping\",\"sender_id\":\"a\",\"data\":\x7b\"b\":1,\"a\":2,\"b\":3\x7d\x7d".toUTF8 =
      .ok (.ping "a" [("a", .int 2), ("b", .int 3)]) := by
  decide +kernel

/-- A ping with a member that is skipped: a number past all doubles, and a byte that is no text. -/
def oddPing : ByteArray :=
  "\x7b\"type\":\"ping\",\"sender_id\":\"a\",\"x\":[1e999,\"".toUTF8 ++ ⟨#[0xFF]⟩ ++ "\"]\x7d".toUTF8

/-- A ping with an energy of minus zero. -/
def minusPing : ByteArray := "\x7b\"type\":\"ping\",\"sender_id\":\"a\",\"energy\":-0\x7d".toUTF8

/-- What is skipped need not be text, and minus zero is no whole number. -/
theorem Message.decode_oddPing_minusPing :
    (decode oddPing = .ok (.ping "a" []) ∧ String.fromUTF8? oddPing = none) ∧
      decode minusPing = .error .malformed := by
  decide +kernel

end GridDiffusion
