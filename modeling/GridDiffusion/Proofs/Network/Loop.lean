import GridDiffusion.Proofs.Network.Delivery
/-! Delivery as a loop: the first datagram in flight is taken out and delivered, and what this sets
off joins the end of the queue. The loop ends, because replies set off nothing more. -/
namespace GridDiffusion.Network

variable {network final other : Network} {popped others : List Packet}

/-- One turn of the loop, on the first datagram in flight and the rest of the queue. -/
def turn (network : Network) (packet : Packet) (rest : List Packet) : Network :=
  let (next, replies) := (network.requeue rest).deliver packet
  next.requeue (next.inFlight ++ replies)

/-- A run of the loop until nothing is in flight, with the datagrams that it takes out, in order. -/
inductive Drains : Network → List Packet → Network → Prop
  | done {network : Network} (empty : network.inFlight = []) : Drains network [] network
  | turn {network final : Network} {packet : Packet} {rest popped : List Packet}
    (first : network.inFlight = packet :: rest) (more : Drains (network.turn packet rest) popped final) :
    Drains network (packet :: popped) final

/-- The loop is deterministic. -/
theorem Drains.unique (left : network.Drains popped final) (right : network.Drains others other) :
    popped = others ∧ final = other := by
  induction left generalizing others with
  | done empty =>
    cases right with
    | done => exact ⟨rfl, rfl⟩
    | turn first => cases empty.symm.trans first
  | turn first more ih =>
    cases right with
    | done empty => cases empty.symm.trans first
    | turn otherFirst otherMore =>
      obtain ⟨rfl, rfl⟩ := List.cons.inj (first.symm.trans otherFirst)
      obtain ⟨rfl, rfl⟩ := ih otherMore
      exact ⟨rfl, rfl⟩

theorem deliver_requeue (network : Network) (queue : List Packet) (packet : Packet) :
    (network.requeue queue).deliver packet =
      ((network.deliver packet).1.requeue queue, (network.deliver packet).2) := by
  unfold deliver requeue
  dsimp only
  by_cases cut : network.cutLinks.contains (packet.source, packet.target) = true
  · rw [if_pos cut, if_pos cut]
    rfl
  · rw [if_neg cut, if_neg cut]
    cases packet.message.overWire with
    | error cause => rfl
    | ok message =>
      by_cases home : packet.target = network.controller
      · dsimp only
        rw [if_pos home, if_pos home]
      · dsimp only
        rw [if_neg home, if_neg home]
        cases (network.grid.coordAt? packet.target).bind network.grid.place? <;> rfl

/-- The loop works through the front of the queue and leaves the replies at its end. -/
theorem Drains.front {packets extra : List Packet}
    (more : ((network.deliverEach packets).1.requeue
      (extra ++ (network.deliverEach packets).2)).Drains popped final) :
    (network.requeue (packets ++ extra)).Drains (packets ++ popped) final := by
  induction packets generalizing network extra with
  | nil =>
    rw [show (network.deliverEach []).2 = [] from rfl, List.append_nil] at more
    exact more
  | cons packet rest ih =>
    have turned : (network.requeue (packet :: rest ++ extra)).turn packet (rest ++ extra) =
        (network.deliver packet).1.requeue (rest ++ (extra ++ (network.deliver packet).2)) := by
      have taken : (network.requeue (packet :: rest ++ extra)).requeue (rest ++ extra) =
          network.requeue (rest ++ extra) := rfl
      rw [Network.turn, taken, deliver_requeue, ← List.append_assoc]
      rfl
    rw [deliverEach_cons, ← List.append_assoc] at more
    exact .turn rfl (turned ▸ ih more)

theorem Drains.pass {packets : List Packet} (more : ((network.deliverEach packets).1.requeue
    (network.deliverEach packets).2).Drains popped final) :
    (network.requeue packets).Drains (packets ++ popped) final := by
  have front : (network.requeue (packets ++ [])).Drains (packets ++ popped) final := .front more
  rwa [List.append_nil] at front

/-- The loop takes out what was in flight and then the replies to it, and so delivers everything. -/
theorem drains_deliverAll (network : Network) :
    network.Drains (network.inFlight ++ network.replies) network.deliverAll := by
  have last : network.deliverAll.Drains [] network.deliverAll := .done network.inFlight_deliverAll
  have second : (((network.requeue []).deliverEach network.inFlight).1.requeue
      network.replies).Drains (network.replies ++ []) network.deliverAll := .pass last
  have first : ((network.requeue []).requeue network.inFlight).Drains
      (network.inFlight ++ (network.replies ++ [])) network.deliverAll := .pass second
  rwa [List.append_nil] at first

theorem drains_iff : network.Drains popped final ↔
    popped = network.inFlight ++ network.replies ∧ final = network.deliverAll := by
  constructor
  · intro drains
    exact drains.unique network.drains_deliverAll
  · intro parts
    obtain ⟨rfl, rfl⟩ := parts
    exact network.drains_deliverAll

end GridDiffusion.Network
