import Mathlib.Algebra.GroupWithZero.Nat
import GridDiffusion.Proofs.Json.Spelling
import GridDiffusion.Proofs.Json.Word
/-! How many bytes a value is written with: a quantity of the value alone, whatever stands before
it. -/
namespace GridDiffusion.Json

theorem IsWord.length_bytes {text : String} (word : IsWord text) :
    (Text.bytes text).length = text.length := by
  rw [← String.length_toList, ← word.map_bytes, List.length_map]

/-- A text that needs no escapes is spelled as it is, one byte for each of its characters. -/
theorem Spelling.length_ofText_replicate (count : Nat) {character : Char}
    (plain : (ofChar character).length = 1) :
    (ofText (String.ofList (List.replicate count character))).length = count := by
  rw [ofText, String.toList_ofList, List.length_flatMap, List.map_replicate, plain,
    List.sum_replicate_nat, Nat.mul_one]

namespace Value

mutual

/-- The number of bytes that a value is written with. -/
def width : Value → Nat
  | null => 4
  | bool value => if value then 4 else 5
  | number value => (Text.bytes (writeNumber "" value)).length
  | text value => (Spelling.ofText value).length + 2
  | array [] => 2
  | array (first :: rest) => first.width + widthOfItems rest + 2
  | object [] => 2
  | object ((name, first) :: rest) =>
    (Spelling.ofText name).length + 3 + first.width + widthOfMembers rest + 2

def widthOfItems : List Value → Nat
  | [] => 0
  | item :: rest => 1 + item.width + widthOfItems rest

def widthOfMembers : List (String × Value) → Nat
  | [] => 0
  | (name, value) :: rest =>
    1 + ((Spelling.ofText name).length + 3 + value.width) + widthOfMembers rest

end

theorem length_push (written : String) {mark : Char} (one : mark.utf8Size = 1) :
    (Text.bytes (written.push mark)).length = (Text.bytes written).length + 1 := by
  rw [Text.bytes_push, List.length_append, String.length_utf8EncodeChar, one]

theorem length_writeText (written text : String) : (Text.bytes (writeText written text)).length =
    (Text.bytes written).length + ((Spelling.ofText text).length + 2) := by
  rw [Spelling.bytes_writeText]
  simp only [List.length_append, List.length_cons, List.length_nil]
  omega

theorem length_writeNumber (written : String) (value : Number) :
    (Text.bytes (writeNumber written value)).length =
      (Text.bytes written).length + (Text.bytes (writeNumber "" value)).length := by
  cases value <;> simp [writeNumber, Text.bytes_append]

mutual

theorem length_write (written : String) (value : Value) :
    (Text.bytes (value.write written)).length = (Text.bytes written).length + value.width := by
  match value with
  | null => rw [write, Text.bytes_append, List.length_append]; rfl
  | bool true | bool false => rw [write, Text.bytes_append, List.length_append]; rfl
  | number value => rw [write, width, length_writeNumber]
  | text value => rw [write, width, length_writeText]
  | array [] => rw [write, Text.bytes_append, List.length_append]; rfl
  | array (first :: rest) =>
    rw [write, width, length_push _ rfl, length_writeItems, length_write, length_push _ rfl]
    omega
  | object [] => rw [write, Text.bytes_append, List.length_append]; rfl
  | object ((name, first) :: rest) =>
    rw [write, width, length_push _ rfl, length_writeMembers, length_write, length_push _ rfl,
      length_writeText, length_push _ rfl]
    omega

theorem length_writeItems (written : String) (items : List Value) :
    (Text.bytes (writeItems written items)).length =
      (Text.bytes written).length + widthOfItems items := by
  match items with
  | [] => rw [writeItems, widthOfItems, Nat.add_zero]
  | item :: rest =>
    rw [writeItems, widthOfItems, length_writeItems, length_write, length_push _ rfl]
    omega

theorem length_writeMembers (written : String) (members : List (String × Value)) :
    (Text.bytes (writeMembers written members)).length =
      (Text.bytes written).length + widthOfMembers members := by
  match members with
  | [] => rw [writeMembers, widthOfMembers, Nat.add_zero]
  | (name, value) :: rest =>
    rw [writeMembers, widthOfMembers, length_writeMembers, length_write, length_push _ rfl,
      length_writeText, length_push _ rfl]
    omega

end

theorem utf8ByteSize_render (value : Value) : value.render.utf8ByteSize = value.width := by
  rw [← Text.length_bytes, render, length_write]
  exact Nat.zero_add _

theorem width_nat (number : Nat) : (int number).width = number.repr.length :=
  (Text.bytes_append "" number.repr ▸ (IsWord.nat_repr number).length_bytes :
    (Text.bytes ("" ++ number.repr)).length = number.repr.length)

theorem width_object (members : List (String × Value)) :
    (object members).width = 2 + (widthOfMembers members - 1) := by
  cases members with
  | nil => rfl
  | cons member rest =>
    rw [width, widthOfMembers]
    omega

theorem widthOfMembers_map {Entry : Type} (entries : List Entry) (name : Entry → String)
    (value : Entry → Value) :
    widthOfMembers (entries.map fun entry => (name entry, value entry)) =
      (entries.map fun entry =>
        (Spelling.ofText (name entry)).length + (value entry).width + 4).sum := by
  induction entries with
  | nil => rfl
  | cons entry rest ih =>
    rw [List.map_cons, widthOfMembers, ih, List.map_cons, List.sum_cons]
    omega

end Value
end GridDiffusion.Json
