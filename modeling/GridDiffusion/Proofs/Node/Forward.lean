import GridDiffusion.Proofs.Grid.Detour
import GridDiffusion.Proofs.Message.LeastSize
import GridDiffusion.Proofs.Node.Pong
import GridDiffusion.Proofs.Node.Without
/-! Items that have just been taken in: the next tick passes them on, with one unit of energy less
and one hop more. Who passes an item on writes it out in full and under its own name, so that it may
get too long for a datagram although a datagram has brought it. -/
namespace GridDiffusion

open Json

theorem lt_pow_length_repr (number : Nat) : number < 10 ^ number.repr.length :=
  (Nat.length_repr_le_iff Nat.length_repr_pos).mp (Nat.le_refl _)

theorem length_repr_mono {small large : Nat} (below : small ≤ large) :
    small.repr.length ≤ large.repr.length :=
  (Nat.length_repr_le_iff Nat.length_repr_pos).mpr
    (Nat.lt_of_le_of_lt below (lt_pow_length_repr large))

theorem length_repr_succ_le (number : Nat) : (number + 1).repr.length ≤ number.repr.length + 1 := by
  have longer : 10 ^ number.repr.length < 10 ^ (number.repr.length + 1) :=
    Nat.pow_lt_pow_right (by decide) (Nat.lt_succ_self _)
  exact (Nat.length_repr_le_iff (Nat.succ_pos _)).mpr
    (Nat.lt_of_le_of_lt (lt_pow_length_repr number) longer)

theorem Json.Spelling.length_ofText_append (left right : String) :
    (ofText (left ++ right)).length = (ofText left).length + (ofText right).length := by
  simp [ofText]

theorem Json.Spelling.length_ofText_repr (number : Nat) :
    (ofText number.repr).length = number.repr.length := by
  have one : ∀ digit < 10, (ofChar (Nat.digitChar digit)).length = 1 := by decide
  obtain ⟨digits, spells⟩ := Digits.exists_spells number
  have each : digits.map (fun digit => (ofChar (Nat.digitChar digit)).length) =
      digits.map fun _ => 1 :=
    List.map_congr_left fun digit member => one digit (spells.small digit member)
  simp [ofText, Nat.repr_eq_ofList_toDigits, spells.text, List.length_flatMap, Function.comp_def, each]

theorem Grid.length_peerId_le {grid : Grid} {cell : Coord} (onGrid : grid.contains cell = true) :
    (Spelling.ofText cell.peerId).length ≤ 12 := by
  have lead : (Spelling.ofText "node_").length = 5 ∧ (Spelling.ofText "_").length = 1 := by decide
  have digits {position : UInt32} (inside : position.toNat < grid.size.toNat) :
      position.toNat.repr.length ≤ 3 := by
    have size := grid.size_le
    exact (Nat.length_repr_le_iff (by decide)).mpr (by omega)
  obtain ⟨column, row⟩ := contains_iff.mp onGrid
  have first := digits column
  have second := digits row
  rw [Coord.peerId, Spelling.length_ofText_append, Spelling.length_ofText_append,
    Spelling.length_ofText_append, Spelling.length_ofText_repr, Spelling.length_ofText_repr]
  omega

theorem Message.size_of_encode {message : Message} {bytes : ByteArray}
    (written : message.encode = .ok bytes) : bytes.size = message.text.utf8ByteSize := by
  simp only [encode] at written
  split at written
  · exact Except.ok.inj written ▸ rfl
  · cases written

namespace Parcel
variable {parcel : Parcel} {sender : String} {item : Item}

/-- A parcel as it is passed on by who has just taken it in. -/
def onward (parcel : Parcel) : Parcel :=
  { parcel with energy := parcel.energy - 1, hops := saturatingSucc parcel.hops }

/-- The bytes of a parcel with energy, written out in full. -/
def fullSize (parcel : Parcel) (sender : String) : Nat :=
  90 + (Spelling.ofText sender).length + (Spelling.ofText parcel.id).length +
    (Spelling.ofText parcel.content).length + parcel.energy.toInt.toNat.repr.length +
      parcel.hops.toNat.repr.length

theorem utf8ByteSize_text (charged : 0 < parcel.energy.toInt) (sender : String) :
    (Message.information sender parcel).text.utf8ByteSize = parcel.fullSize sender := by
  have amount : parcel.energy.toInt = (parcel.energy.toInt.toNat : Int) := by omega
  have width : (Value.int parcel.energy.toInt).width = parcel.energy.toInt.toNat.repr.length := by
    rw [amount]
    exact Value.width_nat _
  rw [Message.utf8ByteSize_information, width, fullSize]

theorem toInt_energy_onward (charged : 1 < parcel.energy.toInt) :
    parcel.onward.energy.toInt = parcel.energy.toInt - 1 := by
  have one : (1 : Int64).toInt = 1 := rfl
  exact Int64.toInt_sub_of_le _ _ (by decide) (Int64.le_iff_toInt_le.mpr (by omega))

theorem parcel_of_arrival? (arrived : parcel.arrival? sender = some item) :
    1 < parcel.energy.toInt ∧ item.parcel parcel.id = parcel.onward := by
  obtain ⟨content, amount, hops, -⟩ := arrival?_eq_some_iff.mp arrived
  have positive := item.energy_pos
  have bound := parcel.energy.toInt_lt
  have charged : 1 < parcel.energy.toInt := by omega
  have energy : wireEnergy item.energy = parcel.onward.energy := by
    rw [← Int64.toInt_inj, toInt_wireEnergy, toInt_energy_onward charged]
    omega
  rw [Item.parcel, content, energy, hops]
  exact ⟨charged, rfl⟩

theorem length_energy_onward_le (charged : 1 < parcel.energy.toInt) :
    parcel.onward.energy.toInt.toNat.repr.length ≤ parcel.energy.toInt.toNat.repr.length := by
  rw [toInt_energy_onward charged]
  exact length_repr_mono (by omega)

theorem length_hops_onward_le (parcel : Parcel) :
    parcel.onward.hops.toNat.repr.length ≤ parcel.hops.toNat.repr.length + 1 := by
  refine Nat.le_trans (length_repr_mono ?_) (length_repr_succ_le _)
  exact Nat.le_trans (Nat.le_of_eq (toNat_saturatingSucc parcel.hops)) (Nat.min_le_left ..)

theorem fullSize_onward_le (charged : 1 < parcel.energy.toInt) (sender peer : String) :
    parcel.onward.fullSize peer + (Spelling.ofText sender).length ≤
      parcel.fullSize sender + 1 + (Spelling.ofText peer).length := by
  have energy := length_energy_onward_le charged
  have hops := length_hops_onward_le parcel
  have same : parcel.onward.id = parcel.id ∧ parcel.onward.content = parcel.content := ⟨rfl, rfl⟩
  rw [fullSize, fullSize, same.1, same.2]
  omega

/-- What was as short as it gets is passed on with 66 bytes more for the names of the fields and the
values that were left out, and with one more for the hops. -/
theorem fullSize_onward_le_leastSize (charged : 1 < parcel.energy.toInt) (sender peer : String) :
    parcel.onward.fullSize peer + (Spelling.ofText sender).length ≤
      parcel.leastSize sender + 67 + (Spelling.ofText peer).length := by
  have energy := length_energy_onward_le charged
  have same : parcel.onward.id = parcel.id ∧ parcel.onward.content = parcel.content := ⟨rfl, rfl⟩
  have content : (Spelling.ofText parcel.content).length ≤
      if parcel.content = "" then 0 else 3 + (Spelling.ofText parcel.content).length := by
    split
    next empty =>
      rw [empty]
      exact Nat.le_refl 0
    · exact Nat.le_add_left ..
  have hops : parcel.onward.hops.toNat.repr.length ≤
      1 + if parcel.hops = 0 then 0 else 1 + parcel.hops.toNat.repr.length := by
    split
    next none =>
      have one : (saturatingSucc 0).toNat.repr.length = 1 := by decide
      rw [onward, none]
      exact Nat.le_of_eq one
    · have longer := length_hops_onward_le parcel
      omega
  rw [fullSize, leastSize, same.1, same.2]
  omega

/-- From as short a datagram as there is, the last cell of the largest grid makes one of 79 bytes
more. -/
example : leastSize ⟨"x", "", 5, 0⟩ "" + 79 =
    fullSize (onward ⟨"x", "", 5, 0⟩) (Coord.peerId ⟨255, 255⟩) := by
  decide

end Parcel

theorem Grid.exists_near {grid : Grid} {cell : Coord} (onGrid : grid.contains cell = true)
    (wide : 2 ≤ grid.size.toNat) : ∃ near, grid.contains near = true ∧ cell.chebyshev near = 1 := by
  obtain ⟨column, row⟩ := contains_iff.mp onGrid
  obtain ⟨beside, inside, next⟩ := Coord.exists_beside column wide
  obtain ⟨near, nearOnGrid, x, y⟩ := exists_cell inside row
  refine ⟨near, nearOnGrid, ?_⟩
  rw [Coord.chebyshev_eq, x, y, next, Coord.gap_self]
  rfl

namespace Node
variable {node next start : Node} {grid : Grid} {cell : Coord} {sender : String} {parcel : Parcel}

/-- A node accepts what brings it an item, if it is alive and the id is free. -/
theorem receive_eq_accepted_iff : node.receive sender parcel = (.accepted, next) ↔
    node.alive = true ∧ node.store.get? parcel.id = none ∧ ∃ item,
      parcel.arrival? sender = some item ∧
        next = { node with store := node.store.insert parcel.id item } := by
  unfold receive
  rcases Bool.eq_false_or_eq_true node.alive with alive | dead
  · rw [if_neg (by simp [alive])]
    cases held : node.store.get? parcel.id with
    | some old => simp [Store.contains_of_get? held]
    | none =>
      have free := Store.contains_eq_false_iff.mpr held
      rw [if_neg (by simp [free]), Parcel.arrival?]
      split
      · simp
      · rw [Store.offer_of_free free]
        cases Item.of? parcel.content (parcel.energy - 1).toUInt64 (saturatingSucc parcel.hops)
          (.peer sender) with
        | none => simp
        | some item => simp [alive, eq_comm]
  · simp [dead]

/-- An item stays as it is until the next tick, unless the node fails. -/
theorem get?_replay_of_calm {id : String} {item : Item} {log : List NodeEvent}
    (empty : node.EmptyIfDead) (held : node.store.get? id = some item)
    (calm : ∀ event ∈ log, event.fails = false ∧ event.isTick = false) :
    (node.replay log).store.get? id = some item := by
  induction log using List.reverseRecOn with
  | nil => exact held
  | append_singleton log last ih =>
    obtain ⟨lasting, between⟩ := calm last (by simp)
    have kept := ih fun event member => calm event (List.mem_append_left _ member)
    rw [replay_concat, get?_apply (empty.replay log), lasting, between, kept]
    rfl

theorem LivesAt.replay (lives : node.LivesAt grid cell) (log : List NodeEvent) :
    (node.replay log).LivesAt grid cell :=
  lives.of_samePlace (node.samePlace_replay log) (lives.emptyIfDead.replay log)

/-- What a tick of a cell's node sends of an item: it goes to every cell around, as it is held. -/
theorem LivesAt.mem_tick_item_iff (lives : node.LivesAt grid cell) {id : String} {item : Item}
    (held : node.store.get? id = some item) {outgoing : Outgoing} :
    outgoing ∈ node.tick.1 ∧ outgoing.message.itemId? = some id ↔
      ∃ near, grid.contains near = true ∧ cell.chebyshev near = 1 ∧
        grid.addressOf near = .ok outgoing.target ∧
          outgoing.message = .information cell.peerId (item.parcel id) := by
  rw [lives.mem_tick_iff]
  constructor
  · intro sent
    obtain ⟨⟨other, copy, stored, near, around, rfl⟩, named⟩ := sent
    obtain rfl : other = id := Option.some.inj named
    obtain rfl : copy = item := Option.some.inj (stored.symm.trans held)
    obtain ⟨onGrid, beside⟩ := Grid.mem_mooreNeighbors.mp around
    exact ⟨near, onGrid, Coord.areNeighbors_iff.mp beside, Grid.addressOf_neighborAt onGrid, rfl⟩
  · intro sent
    obtain ⟨near, onGrid, beside, address, message⟩ := sent
    have around := Grid.mem_mooreNeighbors.mpr ⟨onGrid, Coord.areNeighbors_iff.mpr beside⟩
    have target : outgoing.target = (grid.neighborAt near).address :=
      Except.ok.inj (address.symm.trans (Grid.addressOf_neighborAt onGrid))
    refine ⟨⟨id, item, held, near, around, ?_⟩, congrArg Message.itemId? message⟩
    rw [← target, ← message]

/-- A node that passes on, with its next tick, an item that a datagram has brought from a sender. -/
structure Forwards (grid : Grid) (cell : Coord) (bytes : ByteArray) (sender : String)
    (parcel : Parcel) (node : Node) : Prop where
  /-- The item goes to each cell around, with one unit of energy less and one hop more. -/
  sent {outgoing : Outgoing} :
    outgoing ∈ node.tick.1 ∧ outgoing.message.itemId? = some parcel.id ↔
      ∃ near, grid.contains near = true ∧ cell.chebyshev near = 1 ∧
        grid.addressOf near = .ok outgoing.target ∧
          outgoing.message = .information cell.peerId parcel.onward
  reaches : 2 ≤ grid.size.toNat →
    ∃ outgoing ∈ node.tick.1, outgoing.message.itemId? = some parcel.id
  getsThrough : (Message.information cell.peerId parcel.onward).GetsThrough ↔
    parcel.onward.fullSize cell.peerId ≤ datagramLimit
  oversized : (Message.information cell.peerId parcel.onward).encode =
    .error (.oversized (parcel.onward.fullSize cell.peerId)) ↔
      datagramLimit < parcel.onward.fullSize cell.peerId
  /-- The datagram that is passed on is longer by 79 bytes at most. -/
  growth : parcel.onward.fullSize cell.peerId ≤ bytes.size + 79
  /-- It is longer by a digit of the hops and by the name at most, if it came written out in full.
  -/
  relay : (Message.information sender parcel).encode = .ok bytes →
    parcel.onward.fullSize cell.peerId + (Spelling.ofText sender).length ≤
      bytes.size + 1 + (Spelling.ofText cell.peerId).length
  /-- With so many bytes to spare in the datagram that brought it, the item gets through. -/
  short : bytes.size + 79 ≤ datagramLimit →
    (Message.information cell.peerId parcel.onward).GetsThrough

theorem getsThrough_information_iff (charged : 0 < parcel.energy.toInt) (sender : String) :
    (Message.information sender parcel).GetsThrough ↔ parcel.fullSize sender ≤ datagramLimit := by
  rw [← Parcel.utf8ByteSize_text charged sender]
  exact ⟨Message.GetsThrough.fits, fun fits =>
    ⟨_, Message.encode_of_fits fits, Message.decode_information sender parcel⟩⟩

theorem LivesAt.forwards (lives : node.LivesAt grid cell) (onGrid : grid.contains cell = true)
    {bytes : ByteArray} (read : Message.decode bytes = .ok (.information sender parcel))
    (accepted : node.receive sender parcel = (.accepted, next)) {since : List NodeEvent}
    (calm : ∀ event ∈ since, event.fails = false ∧ event.isTick = false) :
    (next.replay since).Forwards grid cell bytes sender parcel := by
  obtain ⟨-, -, item, arrived, taken⟩ := receive_eq_accepted_iff.mp accepted
  obtain ⟨charged, onward⟩ := Parcel.parcel_of_arrival? arrived
  have received : (node.receive sender parcel).2 = next := congrArg Prod.snd accepted
  have stays : next.LivesAt grid cell :=
    received ▸ lives.handle (.information sender parcel) ⟨.loopback, 0, 0⟩
  have held : next.store.get? parcel.id = some item := by
    rw [taken, SortedMap.get?_insert, if_pos rfl]
  have kept := get?_replay_of_calm stays.emptyIfDead held calm
  have settled := stays.replay since
  have rest : 0 < parcel.onward.energy.toInt := by
    rw [Parcel.toInt_energy_onward charged]
    omega
  have through := getsThrough_information_iff rest cell.peerId
  have growth : parcel.onward.fullSize cell.peerId ≤ bytes.size + 79 := by
    have least := Message.leastSize_le_of_decode read (by omega)
    have longer := Parcel.fullSize_onward_le_leastSize charged sender cell.peerId
    have name := Grid.length_peerId_le onGrid
    omega
  constructor
  case sent => exact onward ▸ settled.mem_tick_item_iff kept
  case reaches =>
    intro wide
    obtain ⟨near, nearOnGrid, beside⟩ := Grid.exists_near onGrid wide
    have address := Grid.addressOf_neighborAt nearOnGrid
    exact ⟨⟨_, .information cell.peerId (item.parcel parcel.id)⟩,
      (settled.mem_tick_item_iff kept).mpr ⟨near, nearOnGrid, beside, address, rfl⟩⟩
  case getsThrough => exact through
  case oversized =>
    rw [Message.encode_eq_error_iff, Parcel.utf8ByteSize_text rest, and_iff_right rfl]
  case growth => exact growth
  case relay =>
    intro written
    have size : parcel.fullSize sender = bytes.size := by
      rw [← Parcel.utf8ByteSize_text (by omega), ← Message.size_of_encode written]
    exact size ▸ Parcel.fullSize_onward_le charged sender cell.peerId
  case short => exact fun spare => through.mpr (Nat.le_trans growth spare)

/-- What a cell's node has accepted from a datagram goes out with its next tick, whatever else has
happened to it up to then, unless it has failed. All of it gets through if the datagram was not
among the longest. -/
theorem forwards_of_accepted (onGrid : grid.contains cell = true)
    (started : (NodeConfig.forCell grid cell).bind ofConfig = .ok start) (log : List NodeEvent)
    {bytes : ByteArray} (read : Message.decode bytes = .ok (.information sender parcel))
    (accepted : (start.replay log).receive sender parcel = (.accepted, next))
    {since : List NodeEvent} (calm : ∀ event ∈ since, event.fails = false ∧ event.isTick = false) :
    (next.replay since).Forwards grid cell bytes sender parcel := by
  obtain rfl := Except.ok.inj ((ofConfig_forCell onGrid).symm.trans started)
  exact ((livesAt_fresh onGrid).replay log).forwards onGrid read accepted calm

/-- An item that arrives between other ones, with another injection before it is passed on. -/
theorem forwards_of_accepted_fourCells : ∃ start bytes next,
    (NodeConfig.forCell .fourCells ⟨1, 0⟩).bind ofConfig = .ok start ∧
      Message.decode bytes = .ok (.information "node_0_0" ⟨"news", "", 5, 9⟩) ∧
      (start.replay [.inject "a" "" 3, .tick]).receive "node_0_0" ⟨"news", "", 5, 9⟩ =
        (.accepted, next) ∧
      (next.replay [.inject "b" "" 1]).Forwards .fourCells ⟨1, 0⟩ bytes "node_0_0"
        ⟨"news", "", 5, 9⟩ := by
  have onGrid : Grid.fourCells.contains ⟨1, 0⟩ = true := by decide
  have started := ofConfig_forCell onGrid
  have read := Message.decode_information "node_0_0" ⟨"news", "", 5, 9⟩
  exact ⟨_, _, _, started, read, rfl,
    forwards_of_accepted onGrid started [.inject "a" "" 3, .tick] read rfl (by decide)⟩

/-- An item that fills a datagram to its last byte, and that has made nine hops. -/
def fullParcel : Parcel := ⟨String.ofList (.replicate 65407 'a'), "", 5, 9⟩

theorem fullSize_fullParcel : fullParcel.fullSize "node_0_0" = datagramLimit ∧
    fullParcel.onward.fullSize (Coord.peerId ⟨1, 0⟩) = datagramLimit + 1 := by
  have id : (Spelling.ofText fullParcel.id).length = 65407 :=
    Spelling.length_ofText_replicate 65407 (by decide)
  have same : fullParcel.onward.id = fullParcel.id := rfl
  have names : (Spelling.ofText "node_0_0").length = 8 ∧
      (Spelling.ofText (Coord.peerId ⟨1, 0⟩)).length = 8 ∧
      (Spelling.ofText fullParcel.content).length = 0 ∧
      (Spelling.ofText fullParcel.onward.content).length = 0 := by decide
  have digits : fullParcel.energy.toInt.toNat.repr.length = 1 ∧
      fullParcel.hops.toNat.repr.length = 1 ∧
      fullParcel.onward.energy.toInt.toNat.repr.length = 1 ∧
      fullParcel.onward.hops.toNat.repr.length = 2 := by decide
  rw [Parcel.fullSize, Parcel.fullSize, same, datagramLimit]
  omega

/-- What a datagram brings and a node accepts may be too long to be passed on. -/
theorem oversized_of_accepted : ¬ ∀ (grid : Grid) (cell : Coord) (start next : Node)
    (log : List NodeEvent) (bytes : ByteArray) (sender : String) (parcel : Parcel),
    grid.contains cell = true → 2 ≤ grid.size.toNat →
    (NodeConfig.forCell grid cell).bind ofConfig = .ok start → bytes.size ≤ datagramLimit →
    Message.decode bytes = .ok (.information sender parcel) →
    (start.replay log).receive sender parcel = (.accepted, next) →
    ∀ outgoing ∈ next.tick.1, outgoing.message.itemId? = some parcel.id →
      ∃ datagram, outgoing.message.encode = .ok datagram := by
  intro always
  have onGrid : Grid.fourCells.contains ⟨1, 0⟩ = true := by decide
  have started := ofConfig_forCell onGrid
  obtain ⟨fits, long⟩ := fullSize_fullParcel
  have size := Parcel.utf8ByteSize_text (by decide : 0 < fullParcel.energy.toInt) "node_0_0"
  have short : (Message.information "node_0_0" fullParcel).Fits := Nat.le_of_eq (size.trans fits)
  obtain ⟨bytes, limit, read⟩ := exists_datagram short
  obtain ⟨item, arrived⟩ := Parcel.exists_arrival "node_0_0" (by decide : 1 < fullParcel.energy.toInt)
  have accepted : (fresh .fourCells ⟨1, 0⟩).receive "node_0_0" fullParcel = (.accepted, _) :=
    receive_eq_accepted_iff.mpr ⟨rfl, rfl, item, arrived, rfl⟩
  have forwards := (livesAt_fresh onGrid).forwards onGrid read accepted (List.forall_mem_nil _)
  obtain ⟨outgoing, goes, named⟩ := forwards.reaches (by decide)
  obtain ⟨-, -, -, -, message⟩ := forwards.sent.mp ⟨goes, named⟩
  obtain ⟨datagram, encoded⟩ := always .fourCells ⟨1, 0⟩ _ _ [] bytes _ _ onGrid (by decide) started
    limit read accepted _ goes named
  rw [message, forwards.oversized.mpr (by omega)] at encoded
  cases encoded

end Node
end GridDiffusion
