import GridDiffusion.Message.Status
/-! The items that a node holds, in id order. Energy is never zero: an item that would reach zero is
dropped instead. -/
namespace GridDiffusion

inductive Provenance
  | self
  | peer (id : String)
deriving DecidableEq

def Provenance.text : Provenance → String
  | self => "self"
  | peer id => id

/-- A held item with energy left. -/
structure Item where
  content : String
  energy : UInt64
  hops : UInt64
  provenance : Provenance
  energy_ne_zero : energy ≠ 0
deriving DecidableEq

namespace Item

/-- The item with one unit of energy less, unless that was its last. -/
def decayed? (item : Item) : Option Item :=
  if left : item.energy - 1 ≠ 0 then
    some { item with energy := item.energy - 1, energy_ne_zero := left }
  else none

def summary (item : Item) : ItemSummary := ⟨item.energy, item.hops⟩

end Item

inductive Admission
  | stored
  /-- An item of this id is held already, and nothing changed. -/
  | alreadyHeld
  /-- The item came without energy, and nothing changed. -/
  | exhausted
deriving DecidableEq, Repr

abbrev Store := SortedMap String Item

namespace Store

/-- Take in a new item with energy. A held item is never replaced. -/
def offer (store : Store) (id content : String) (energy hops : UInt64) (provenance : Provenance) :
    Admission × Store :=
  if store.contains id then (.alreadyHeld, store)
  else if positive : energy ≠ 0 then
    (.stored, store.insert id { content, energy, hops, provenance, energy_ne_zero := positive })
  else (.exhausted, store)

def expiring (store : Store) : List String :=
  store.entries.filterMap fun entry => if entry.2.decayed?.isNone then some entry.1 else none

/-- Take one unit of energy from every item and drop those that have none left. -/
def decay (store : Store) : Store := store.filterMap fun _ item => item.decayed?

def summaries (store : Store) : SortedMap String ItemSummary := SortedMap.map store Item.summary

end Store
end GridDiffusion
