import Mathlib.Algebra.Order.BigOperators.Group.List
import Mathlib.Algebra.Order.Group.Nat
import GridDiffusion.Proofs.Message.RoundTrip
import GridDiffusion.Proofs.Message.Size
import GridDiffusion.Proofs.Node.Log
/-! The answer to a ping: every node answers, alive or dead, and the answer gets through as long as
the list of held items fits a datagram. Nothing in the way items are taken in sees to that. -/
namespace GridDiffusion

open Json

/-- Whether a message can be written as a datagram that is read as the same message. -/
def Message.GetsThrough (message : Message) : Prop :=
  ∃ bytes, message.encode = .ok bytes ∧ Message.decode bytes = .ok message

theorem Message.GetsThrough.fits {message : Message} (through : message.GetsThrough) :
    message.Fits := by
  obtain ⟨bytes, encoded, -⟩ := through
  apply Nat.le_of_not_lt
  intro long
  rw [encode_eq_error_iff.mpr ⟨rfl, long⟩] at encoded
  cases encoded

/-- What comes to a node by itself: datagrams that can be read, ticks, failures and revivals. -/
inductive NodeEvent.Arises : NodeEvent → Prop
  | datagram {bytes : ByteArray} {message : Message} {source : Address}
    (short : bytes.size ≤ datagramLimit) (read : Message.decode bytes = .ok message) :
    Arises (.handle message source)
  | tick : Arises .tick
  | kill : Arises .kill
  | revive : Arises .revive

namespace Node
variable {node : Node} {grid : Grid} {cell : Coord}

def itemSize (id : String) (item : Item) : Nat :=
  (Spelling.ofText id).length + item.energy.toNat.repr.length + item.hops.toNat.repr.length + 23

def pongSize (node : Node) : Nat :=
  153 + (Spelling.ofText node.id).length + (if node.alive then 4 else 5) +
    node.generation.toNat.repr.length + node.coord.x.toNat.repr.length +
    node.coord.y.toNat.repr.length + node.store.size.repr.length +
    node.neighbors.size.repr.length +
    ((node.store.entries.map fun entry => itemSize entry.1 entry.2).sum - 1)

theorem utf8ByteSize_pong_status (node : Node) :
    (Message.pong node.id node.status).text.utf8ByteSize = node.pongSize := by
  rw [Message.utf8ByteSize_pong]
  simp only [status, Store.summaries, SortedMap.map, List.map_map]
  rfl

theorem encode_pong_eq_error_iff (node : Node) : (Message.pong node.id node.status).encode =
    .error (.oversized node.pongSize) ↔ datagramLimit < node.pongSize := by
  rw [Message.encode_eq_error_iff, utf8ByteSize_pong_status, and_iff_right rfl]

theorem size_le_pongSize (node : Node) : node.store.size ≤ node.pongSize := by
  have each : ∀ size ∈ node.store.entries.map fun entry => itemSize entry.1 entry.2, 1 ≤ size := by
    intro size member
    obtain ⟨entry, -, rfl⟩ := List.mem_map.mp member
    exact Nat.le_trans (by decide) (Nat.le_add_left 23 _)
  have count := List.length_le_sum_of_one_le _ each
  rw [List.length_map] at count
  have size : node.store.size = node.store.entries.length := rfl
  rw [pongSize]
  omega

theorem itemSize_le_pongSize {id : String} {item : Item} (held : node.store.get? id = some item) :
    153 + itemSize id item - 1 ≤ node.pongSize := by
  have listed : itemSize id item ∈ node.store.entries.map fun entry => itemSize entry.1 entry.2 :=
    List.mem_map.mpr ⟨(id, item), SortedMap.get?_eq_some_iff.mp held, rfl⟩
  have below := List.le_sum_of_mem listed
  have positive : 23 ≤ itemSize id item := Nat.le_add_left ..
  rw [pongSize]
  omega

theorem size_neighbors_fresh_le (grid : Grid) (cell : Coord) :
    (fresh grid cell).neighbors.size ≤ 8 := by
  have counted := (perm_neighbors_fresh grid cell).length_eq
  rw [SortedMap.values, List.length_map, List.length_map] at counted
  calc (fresh grid cell).neighbors.size
    _ = (grid.mooreNeighbors cell).length := counted
    _ ≤ (mooreSteps.filterMap fun step => cell.offset? step.1 step.2).length :=
      List.length_filter_le ..
    _ ≤ mooreSteps.length := List.length_filterMap_le ..

theorem getsThrough_pong_iff (few : node.neighbors.size ≤ 8) :
    (Message.pong node.id node.status).GetsThrough ↔ node.pongSize ≤ datagramLimit := by
  constructor
  · intro through
    exact node.utf8ByteSize_pong_status ▸ through.fits
  · intro short
    have fits : (Message.pong node.id node.status).Fits :=
      Nat.le_trans (Nat.le_of_eq node.utf8ByteSize_pong_status) short
    have encoded := Message.encode_of_fits fits
    have limit : datagramLimit ≤ maxWord64 := by decide
    have items : node.store.size ≤ maxWord64 := by
      have counted := node.size_le_pongSize
      omega
    have neighbors : node.neighbors.size ≤ maxWord64 := Nat.le_trans few (by decide)
    have carried : (Message.pong node.id node.status).IsCarried := ⟨items, neighbors⟩
    exact ⟨_, encoded, Message.decode_of_encode carried rfl encoded⟩

theorem pongSize_le_of_short (named : node.id = cell.peerId) (few : node.neighbors.size ≤ 8)
    (short : (node.store.entries.map fun entry => 6 * entry.1.utf8ByteSize + 63).sum ≤ 64000) :
    node.pongSize ≤ datagramLimit := by
  have name : (Spelling.ofText node.id).length ≤ 6 * 86 := by
    rw [named]
    exact Nat.le_trans (Spelling.length_ofText_le _)
      (Nat.mul_le_mul_left 6 (Message.utf8ByteSize_peerId_le cell))
  have life : (if node.alive then 4 else 5) ≤ 5 := by split <;> decide
  have generation := length_repr_word node.generation.toNat_lt
  have column := length_repr_word (Nat.lt_trans node.coord.x.toNat_lt (by decide))
  have row := length_repr_word (Nat.lt_trans node.coord.y.toNat_lt (by decide))
  have items : (node.store.entries.map fun entry => itemSize entry.1 entry.2).sum ≤ 64000 := by
    refine Nat.le_trans (List.sum_le_sum fun entry _ => ?_) short
    have id := Spelling.length_ofText_le entry.1
    have energy := length_repr_word entry.2.energy.toNat_lt
    have hops := length_repr_word entry.2.hops.toNat_lt
    rw [itemSize]
    omega
  have size : node.store.size ≤ 64000 := by
    refine Nat.le_trans ?_ short
    have counted := List.length_le_sum_of_one_le
      (node.store.entries.map fun entry => 6 * entry.1.utf8ByteSize + 63) fun size member => by
        obtain ⟨entry, -, rfl⟩ := List.mem_map.mp member
        exact Nat.le_trans (by decide) (Nat.le_add_left 63 _)
    rwa [List.length_map] at counted
  have count := length_repr_word (Nat.lt_of_le_of_lt size (by decide))
  have around := length_repr_word (Nat.lt_of_le_of_lt few (by decide))
  rw [pongSize, datagramLimit]
  omega

/-- What becomes of a ping at a node: it is handled by an answer with the node's status and changes
nothing, and the answer gets through exactly if it is short enough. -/
structure Answers (node : Node) (sender : String) (data : Attributes) (source : Address) : Prop where
  handled : node.handle (.ping sender data) source =
    (some ⟨source, .pong node.id node.status⟩, node)
  getsThrough : (Message.pong node.id node.status).GetsThrough ↔ node.pongSize ≤ datagramLimit
  oversized : (Message.pong node.id node.status).encode = .error (.oversized node.pongSize) ↔
    datagramLimit < node.pongSize
  /-- A failed node is always heard. -/
  dead : node.alive = false → (Message.pong node.id node.status).GetsThrough
  short : (node.store.entries.map fun entry => 6 * entry.1.utf8ByteSize + 63).sum ≤ 64000 →
    (Message.pong node.id node.status).GetsThrough

/-- Whatever has happened to the node of a cell, a ping is handled by an answer with the node's
status. The answer gets through exactly if it is short enough: always from a failed node, and from a
node whose items have ids that are short altogether. -/
theorem answers_replay {start : Node} (onGrid : grid.contains cell = true)
    (started : (NodeConfig.forCell grid cell).bind ofConfig = .ok start) (log : List NodeEvent)
    (sender : String) (data : Attributes) (source : Address) :
    (start.replay log).Answers sender data source := by
  obtain rfl := Except.ok.inj ((ofConfig_forCell onGrid).symm.trans started)
  have same := (fresh grid cell).samePlace_replay log
  have empty := ((livesAt_fresh onGrid).emptyIfDead).replay log
  generalize (fresh grid cell).replay log = node at same empty
  have few : node.neighbors.size ≤ 8 := by
    rw [same.neighbors]
    exact size_neighbors_fresh_le grid cell
  have short (ids : (node.store.entries.map fun entry => 6 * entry.1.utf8ByteSize + 63).sum ≤
      64000) : (Message.pong node.id node.status).GetsThrough :=
    (getsThrough_pong_iff few).mpr (pongSize_le_of_short same.id few ids)
  refine ⟨rfl, getsThrough_pong_iff few, node.encode_pong_eq_error_iff, fun dead => short ?_, short⟩
  rw [empty dead]
  exact Nat.zero_le _

/-- A node that has held an item, ticked and failed. -/
theorem answers_replay_failed : ∃ start,
    (NodeConfig.forCell .fourCells ⟨1, 0⟩).bind ofConfig = .ok start ∧
      (start.replay [.inject "a" "news" 3, .tick, .kill]).Answers "monitor" []
        ⟨.loopback, 40000, 0⟩ := by
  have onGrid : Grid.fourCells.contains ⟨1, 0⟩ = true := by decide
  have started := ofConfig_forCell onGrid
  exact ⟨_, started, answers_replay onGrid started _ _ _ _⟩

theorem exists_datagram {peer : String} {parcel : Parcel}
    (fits : (Message.information peer parcel).Fits) : ∃ bytes : ByteArray,
      bytes.size ≤ datagramLimit ∧ Message.decode bytes = .ok (.information peer parcel) :=
  ⟨_, fits, Message.decode_information peer parcel⟩

/-- An item that a datagram carries, with an id so long that the list of this item alone does not
fit an answer. -/
def longParcel : Parcel := ⟨String.ofList (.replicate 65400 'a'), "", 10, 0⟩

theorem length_id_longParcel : (Spelling.ofText longParcel.id).length = 65400 :=
  Spelling.length_ofText_replicate 65400 (by decide)

theorem fits_longParcel : (Message.information "p" longParcel).Fits := by
  have parts : (Spelling.ofText "p").length = 1 ∧
      (Spelling.ofText longParcel.content).length = 0 ∧
      (Value.int longParcel.energy.toInt).width = 2 ∧ longParcel.hops.toNat.repr.length = 1 := by
    decide
  rw [Message.Fits, Message.utf8ByteSize_information, length_id_longParcel, datagramLimit]
  omega

/-- A ping to a healthy node may stay without an answer that can be sent. -/
theorem not_answered_longParcel : ¬ ∀ (grid : Grid) (cell : Coord) (start : Node)
    (log : List NodeEvent) (sender : String) (data : Attributes) (source : Address),
    grid.contains cell = true → (NodeConfig.forCell grid cell).bind ofConfig = .ok start →
    (∀ event ∈ log, event.Arises) → ∃ answer bytes,
      ((start.replay log).handle (.ping sender data) source).1 = some answer ∧
        answer.message.encode = .ok bytes := by
  intro always
  have onGrid : Grid.fourCells.contains ⟨0, 0⟩ = true := by decide
  have started := ofConfig_forCell onGrid
  let source : Address := ⟨.loopback, 40000, 0⟩
  obtain ⟨datagram, short, read⟩ := exists_datagram fits_longParcel
  have arises : ∀ event ∈ [NodeEvent.handle (.information "p" longParcel) source], event.Arises :=
    List.forall_mem_singleton.mpr (.datagram short read)
  obtain ⟨answer, bytes, sent, encoded⟩ := always .fourCells ⟨0, 0⟩ _ _ "monitor" [] source onGrid
    started arises
  obtain rfl := Option.some.inj sent
  obtain ⟨item, taken⟩ := Parcel.exists_arrival "p" (by decide : 1 < longParcel.energy.toInt)
  have held : ((fresh .fourCells ⟨0, 0⟩).replay
      [.handle (.information "p" longParcel) source]).store.get? longParcel.id = some item := by
    have lasting : (Message.information "p" longParcel).kind ≠ .die := nofun
    rw [replay, List.foldl_cons, List.foldl_nil, apply, get?_handle rfl lasting, Message.arrival?,
      if_pos rfl, taken]
    rfl
  have long := itemSize_le_pongSize held
  rw [itemSize, length_id_longParcel] at long
  have tooLong : datagramLimit < ((fresh .fourCells ⟨0, 0⟩).replay
      [.handle (.information "p" longParcel) source]).pongSize := by
    rw [datagramLimit]
    omega
  rw [(encode_pong_eq_error_iff _).mpr tooLong] at encoded
  cases encoded

end Node
end GridDiffusion
