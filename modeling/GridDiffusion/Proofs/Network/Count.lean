import GridDiffusion.Proofs.Network.Round
/-! The counts of delivered and lost datagrams: every datagram counts once, as lost if its link is
cut, if it cannot be written and read, or if there is nobody at its target. -/
namespace GridDiffusion.Network

variable {network : Network} {packet : Packet} {packets : List Packet}

def loses (network : Network) (packet : Packet) : Bool :=
  network.cutLinks.contains (packet.source, packet.target) ||
    packet.message.overWire.toOption.isNone ||
      packet.target ≠ network.controller && (network.grid.coordAt? packet.target).isNone

theorem loses_of_sameSetting {before after : Network} (same : SameSetting before after)
    (packet : Packet) : after.loses packet = before.loses packet := by
  rw [loses, loses, same.grid, same.controller, same.cutLinks]

theorem counts_deliver (network : Network) (packet : Packet) :
    (network.deliver packet).1.lost = network.lost + (network.loses packet).toNat ∧
      (network.deliver packet).1.delivered = network.delivered + (!network.loses packet).toNat := by
  unfold deliver loses
  cases cut : network.cutLinks.contains (packet.source, packet.target) with
  | true => exact ⟨rfl, rfl⟩
  | false =>
    cases packet.message.overWire with
    | error cause => exact ⟨rfl, rfl⟩
    | ok message =>
      by_cases home : packet.target = network.controller
      · simp [home, Except.toOption]
      · cases target : network.grid.coordAt? packet.target with
        | none => simp [home, Except.toOption, lose]
        | some coord =>
          obtain ⟨place, found⟩ := Grid.exists_place (Grid.contains_of_coordAt? target)
          simp [home, Except.toOption, found, setNode]

theorem counts_deliverEach (network : Network) (packets : List Packet) :
    (network.deliverEach packets).1.lost = network.lost + packets.countP network.loses ∧
      (network.deliverEach packets).1.delivered =
        network.delivered + packets.countP fun packet => !network.loses packet := by
  induction packets generalizing network with
  | nil => exact ⟨rfl, rfl⟩
  | cons packet rest ih =>
    obtain ⟨lost, delivered⟩ := network.counts_deliver packet
    have later : (network.deliver packet).1.loses = network.loses := by
      funext other
      exact loses_of_sameSetting (network.sameSetting_deliver packet) other
    obtain ⟨restLost, restDelivered⟩ := ih (network.deliver packet).1
    rw [deliverEach_cons, restLost, restDelivered, lost, delivered, later, List.countP_cons,
      List.countP_cons]
    cases network.loses packet <;> simp +arith

/-- A delivery counts what was in flight and the replies to it. -/
theorem counts_deliverAll (network : Network) :
    network.deliverAll.lost =
        network.lost + (network.inFlight ++ network.replies).countP network.loses ∧
      network.deliverAll.delivered = network.delivered +
        (network.inFlight ++ network.replies).countP fun packet => !network.loses packet := by
  have same := sameSetting_deliverEach (network.requeue []) network.inFlight
  have later : ((network.requeue []).deliverEach network.inFlight).1.loses = network.loses := by
    funext packet
    exact loses_of_sameSetting same packet
  obtain ⟨lost, delivered⟩ := counts_deliverEach (network.requeue []) network.inFlight
  obtain ⟨restLost, restDelivered⟩ :=
    counts_deliverEach ((network.requeue []).deliverEach network.inFlight).1 network.replies
  rw [later, lost] at restLost
  rw [later, delivered] at restDelivered
  rw [List.countP_append, List.countP_append, ← Nat.add_assoc, ← Nat.add_assoc]
  exact ⟨restLost, restDelivered⟩

theorem replies_eq_nil (silent : ∀ packet ∈ network.inFlight, packet.message.kind ≠ .ping) :
    network.replies = [] := by
  apply List.eq_nil_iff_forall_not_mem.mpr
  intro reply set
  obtain ⟨-, packet, member, ping⟩ := kind_of_mem_deliverEach set
  exact silent packet member ping

theorem counts_updateNode (network : Network) (cell : Coord) (change : Node → Node) :
    (network.updateNode cell change).lost = network.lost ∧
      (network.updateNode cell change).delivered = network.delivered := by
  unfold updateNode
  split <;> exact ⟨rfl, rfl⟩

/-- Where nothing was in flight, a round counts what the ticks send. -/
theorem counts_runRound (sound : network.WellFormed) (flying : network.inFlight = []) :
    network.runRound.lost = network.lost + network.sent.countP network.loses ∧
      network.runRound.delivered + network.runRound.lost =
        network.delivered + network.lost + network.sent.length := by
  have ticked : network.tickAll.inFlight = network.sent := by
    change network.inFlight ++ network.sent = network.sent
    rw [flying, List.nil_append]
  have silent : ∀ packet ∈ network.tickAll.inFlight, packet.message.kind ≠ .ping := by
    intro packet member ping
    rw [ticked] at member
    exact absurd ((kind_of_mem_sent sound member).symm.trans ping) nofun
  obtain ⟨lost, delivered⟩ := network.tickAll.counts_deliverAll
  rw [replies_eq_nil silent, List.append_nil] at lost delivered
  have loses : network.tickAll.loses = network.loses := rfl
  have before : network.tickAll.lost = network.lost ∧
      network.tickAll.delivered = network.delivered := ⟨rfl, rfl⟩
  have all : network.sent.length = network.sent.countP network.loses +
      network.sent.countP fun packet => !network.loses packet := by
    rw [List.length_eq_countP_add_countP network.loses]
    simp
  rw [ticked, loses, before.1] at lost
  rw [ticked, loses, before.2] at delivered
  refine ⟨lost, ?_⟩
  rw [runRound, delivered, lost, all]
  omega

end GridDiffusion.Network
