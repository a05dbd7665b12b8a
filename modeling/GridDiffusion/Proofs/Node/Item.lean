import Mathlib.Algebra.Group.Nat.Defs
import GridDiffusion.Node.Basic
/-! Items as they are taken in, passed on and decay, in whole numbers. -/
namespace GridDiffusion

theorem toNat_saturatingSucc (count : UInt64) :
    (saturatingSucc count).toNat = min (count.toNat + 1) (2 ^ 64 - 1) := by
  have bound := count.toNat_lt
  have succ : (count + 1).toNat = (count.toNat + 1) % 2 ^ 64 := by simp
  unfold saturatingSucc
  split
  next wrapped =>
    rw [wrapped] at succ
    simp at succ
    omega
  next fits =>
    have positive : (count + 1).toNat ≠ 0 := fun zero => fits (UInt64.toNat_inj.mp zero)
    omega

theorem ne_zero_of_one_le_toNat {energy : UInt64} (positive : 1 ≤ energy.toNat) : energy ≠ 0 := by
  intro zero
  subst zero
  cases positive

theorem toInt_wireEnergy (energy : UInt64) :
    (wireEnergy energy).toInt = min energy.toNat (2 ^ 63 - 1) := by
  have greatest : Int64.maxValue.toInt.toNat = 2 ^ 63 - 1 := by decide
  rw [wireEnergy, greatest, Int64.toInt_ofNat_of_lt (by omega)]

namespace Item

def of? (content : String) (energy hops : UInt64) (provenance : Provenance) : Option Item :=
  if positive : energy ≠ 0 then
    some { content, energy, hops, provenance, energy_ne_zero := positive }
  else none

theorem of?_eq_some_iff {content : String} {energy hops : UInt64} {provenance : Provenance}
    {item : Item} : of? content energy hops provenance = some item ↔
      item.content = content ∧ item.energy = energy ∧ item.hops = hops ∧
        item.provenance = provenance := by
  unfold of?
  constructor
  · intro made
    split at made
    · cases made
      exact ⟨rfl, rfl, rfl, rfl⟩
    · cases made
  · intro parts
    obtain ⟨rfl, rfl, rfl, rfl⟩ := parts
    rw [dif_pos item.energy_ne_zero]

theorem energy_pos (item : Item) : 0 < item.energy.toNat :=
  Nat.pos_of_ne_zero fun zero => item.energy_ne_zero (UInt64.toNat_inj.mp zero)

theorem decayed?_eq_some_iff {item next : Item} : item.decayed? = some next ↔
    next.content = item.content ∧ next.energy.toNat + 1 = item.energy.toNat ∧
      next.hops = item.hops ∧ next.provenance = item.provenance := by
  have made : item.decayed? = of? item.content (item.energy - 1) item.hops item.provenance := rfl
  have positive := item.energy_pos
  have one : (1 : UInt64) ≤ item.energy := UInt64.le_iff_toNat_le.mpr positive
  have less : (item.energy - 1).toNat = item.energy.toNat - 1 := UInt64.toNat_sub_of_le _ _ one
  have amount : next.energy = item.energy - 1 ↔ next.energy.toNat + 1 = item.energy.toNat := by
    rw [← UInt64.toNat_inj, less]
    omega
  rw [made, of?_eq_some_iff, amount]

theorem decayed?_eq_none_iff {item : Item} : item.decayed? = none ↔ item.energy.toNat = 1 := by
  have positive := item.energy_pos
  constructor
  · intro gone
    refine Nat.le_antisymm (Nat.le_of_not_lt fun more => ?_) positive
    have left : item.energy - 1 ≠ 0 := by
      have one : (1 : UInt64) ≤ item.energy := UInt64.le_iff_toNat_le.mpr positive
      have less := UInt64.toNat_sub_of_le _ _ one
      intro zero
      rw [zero] at less
      simp at less
      omega
    rw [decayed?, dif_pos left] at gone
    cases gone
  · intro last
    apply Option.eq_none_iff_forall_not_mem.mpr
    intro next found
    have amount := (decayed?_eq_some_iff.mp found).2.1
    have nextPositive := next.energy_pos
    omega

end Item

/-- The item that a parcel from a sender turns into, if it still has energy on arrival. -/
def Parcel.arrival? (parcel : Parcel) (sender : String) : Option Item :=
  if parcel.energy ≤ 0 then none
  else Item.of? parcel.content (parcel.energy - 1).toUInt64 (saturatingSucc parcel.hops) (.peer sender)

/-- A parcel spends one unit of energy and makes one hop on its way. -/
theorem Parcel.arrival?_eq_some_iff {parcel : Parcel} {sender : String} {item : Item} :
    parcel.arrival? sender = some item ↔
      item.content = parcel.content ∧ item.energy.toNat + 1 = parcel.energy.toInt ∧
        item.hops = saturatingSucc parcel.hops ∧ item.provenance = .peer sender := by
  have zero : (0 : Int64).toInt = 0 := rfl
  have positive := item.energy_pos
  unfold arrival?
  split
  next spent =>
    have amount : parcel.energy.toInt ≤ 0 := Int64.le_iff_toInt_le.1 spent
    constructor
    · intro found
      cases found
    · intro kept
      obtain ⟨-, same, -⟩ := kept
      omega
  next charged =>
    have one : (1 : Int64).toInt = 1 := rfl
    have amount : 0 < parcel.energy.toInt := by
      rw [Int64.le_iff_toInt_le, zero] at charged
      omega
    have least : (1 : Int64) ≤ parcel.energy := Int64.le_iff_toInt_le.2 (by omega)
    have rest : (parcel.energy - 1).toInt = parcel.energy.toInt - 1 :=
      Int64.toInt_sub_of_le _ _ (by decide) least
    have below : (0 : Int64) ≤ parcel.energy - 1 := Int64.le_iff_toInt_le.2 (by omega)
    have whole : (parcel.energy - 1).toUInt64.toNat = (parcel.energy - 1).toInt.toNat :=
      Int64.toNat_toUInt64_of_le below
    have energy : item.energy = (parcel.energy - 1).toUInt64 ↔
        item.energy.toNat + 1 = parcel.energy.toInt := by
      rw [← UInt64.toNat_inj, whole, rest]
      omega
    rw [Item.of?_eq_some_iff, energy]

/-- The item that a message brings under an id, if it brings one. -/
def Message.arrival? (message : Message) (id : String) : Option Item :=
  match message with
  | .information sender parcel => if parcel.id = id then parcel.arrival? sender else none
  | _ => none

theorem Message.arrival?_eq_some_iff {message : Message} {id : String} {item : Item} :
    message.arrival? id = some item ↔ ∃ sender parcel, message = .information sender parcel ∧
      parcel.id = id ∧ parcel.arrival? sender = some item := by
  cases message with
  | information sender parcel =>
    simp only [arrival?, Option.ite_none_right_eq_some, information.injEq]
    constructor
    · intro brought
      obtain ⟨named, taken⟩ := brought
      exact ⟨sender, parcel, ⟨rfl, rfl⟩, named, taken⟩
    · intro carried
      obtain ⟨_, _, ⟨rfl, rfl⟩, named, taken⟩ := carried
      exact ⟨named, taken⟩
  | ping | pong | heartbeat | die => simp [arrival?]

theorem Parcel.exists_arrival {parcel : Parcel} (sender : String) (charged : 1 < parcel.energy.toInt) :
    ∃ item, parcel.arrival? sender = some item := by
  have bound := parcel.energy.toInt_lt
  have exact : (UInt64.ofNat (parcel.energy.toInt.toNat - 1)).toNat =
      parcel.energy.toInt.toNat - 1 :=
    UInt64.toNat_ofNat_of_lt' (by change _ < 2 ^ 64; omega)
  have left : UInt64.ofNat (parcel.energy.toInt.toNat - 1) ≠ 0 := by
    intro zero
    rw [zero, UInt64.toNat_zero] at exact
    omega
  refine ⟨⟨parcel.content, _, saturatingSucc parcel.hops, .peer sender, left⟩, ?_⟩
  rw [arrival?_eq_some_iff, exact]
  refine ⟨rfl, ?_, rfl, rfl⟩
  omega

def Item.parcel (item : Item) (id : String) : Parcel :=
  { id, content := item.content, energy := wireEnergy item.energy, hops := item.hops }

theorem Item.arrival?_parcel_eq_some_iff {item copy : Item} {id sender : String} :
    (item.parcel id).arrival? sender = some copy ↔
      copy.content = item.content ∧ copy.energy.toNat + 1 = min item.energy.toNat (2 ^ 63 - 1) ∧
        copy.hops.toNat = min (item.hops.toNat + 1) (2 ^ 64 - 1) ∧
          copy.provenance = .peer sender := by
  have energy : (item.parcel id).energy.toInt = min item.energy.toNat (2 ^ 63 - 1) :=
    toInt_wireEnergy item.energy
  have hops : (saturatingSucc (item.parcel id).hops).toNat =
      min (item.hops.toNat + 1) (2 ^ 64 - 1) := toNat_saturatingSucc item.hops
  rw [Parcel.arrival?_eq_some_iff, energy, ← UInt64.toNat_inj, hops]
  norm_cast

theorem Item.exists_arrival_parcel_iff {item : Item} {id sender : String} :
    (∃ copy, (item.parcel id).arrival? sender = some copy) ↔ 2 ≤ item.energy.toNat := by
  constructor
  · intro arrival
    obtain ⟨copy, taken⟩ := arrival
    have amount := (arrival?_parcel_eq_some_iff.mp taken).2.1
    have positive := copy.energy_pos
    omega
  · intro charged
    have energy : (item.parcel id).energy.toInt = min item.energy.toNat (2 ^ 63 - 1) :=
      toInt_wireEnergy item.energy
    exact Parcel.exists_arrival sender (by omega)

end GridDiffusion
