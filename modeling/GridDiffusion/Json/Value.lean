import GridDiffusion.Json.Tree
import GridDiffusion.Number.Shortest
/-! Document values with their meaning: reading them from trees within a nesting limit, keeping the
members of objects in name order, and writing them without white space. -/
namespace GridDiffusion.Json

/-- A value of a document. Reading leaves the members of objects in strictly increasing name order;
a value that is built to be written may have them in any order. -/
inductive Value
  | null
  | bool (value : Bool)
  | number (value : Number)
  | text (value : String)
  | array (items : List Value)
  | object (members : List (String × Value))
deriving Inhabited

namespace Value

def int (value : Int) : Value := .number (.int value)

mutual

def decideEq : (left right : Value) → Decidable (left = right)
  | null, null => isTrue rfl
  | bool left, bool right => decidable_of_iff (left = right) (by simp)
  | number left, number right => decidable_of_iff (left = right) (by simp)
  | text left, text right => decidable_of_iff (left = right) (by simp)
  | array left, array right =>
    have := decideItems left right
    decidable_of_iff (left = right) (by simp)
  | object left, object right =>
    have := decideMembers left right
    decidable_of_iff (left = right) (by simp)
  | null, bool _ | null, number _ | null, text _ | null, array _ | null, object _
  | bool _, null | bool _, number _ | bool _, text _ | bool _, array _ | bool _, object _
  | number _, null | number _, bool _ | number _, text _ | number _, array _ | number _, object _
  | text _, null | text _, bool _ | text _, number _ | text _, array _ | text _, object _
  | array _, null | array _, bool _ | array _, number _ | array _, text _ | array _, object _
  | object _, null | object _, bool _ | object _, number _ | object _, text _ | object _, array _ =>
    isFalse (by simp)

def decideItems : (left right : List Value) → Decidable (left = right)
  | [], [] => isTrue rfl
  | [], _ :: _ | _ :: _, [] => isFalse (by simp)
  | left :: lefts, right :: rights =>
    have := decideEq left right
    have := decideItems lefts rights
    decidable_of_iff (left = right ∧ lefts = rights) (by simp)

def decideMembers : (left right : List (String × Value)) → Decidable (left = right)
  | [], [] => isTrue rfl
  | [], _ :: _ | _ :: _, [] => isFalse (by simp)
  | (name, left) :: lefts, (other, right) :: rights =>
    have := decideEq left right
    have := decideMembers lefts rights
    decidable_of_iff (name = other ∧ left = right ∧ lefts = rights) (by simp [and_assoc])

end

instance : DecidableEq Value := decideEq

def shortEscape? (character : Char) : Option Char :=
  match character with
  | '"' => some '"'
  | '\\' => some '\\'
  | '\x08' => some 'b'
  | '\x0C' => some 'f'
  | '\n' => some 'n'
  | '\r' => some 'r'
  | '\t' => some 't'
  | _ => none

def hexDigit (value : Nat) : Char := (Nat.toDigits 16 value).headD '0'

/-- Write one character inside a string: quotes, backslashes and control characters are escaped. -/
def writeCharacter (written : String) (character : Char) : String :=
  match shortEscape? character with
  | some letter => (written.push '\\').push letter
  | none =>
    if character.toNat < 0x20 then
      ((written ++ "\\u00").push (hexDigit (character.toNat / 16))).push
        (hexDigit (character.toNat % 16))
    else written.push character

def writeText (written : String) (text : String) : String :=
  (text.foldl writeCharacter (written.push '"')).push '"'

def writeNumber (written : String) : Number → String
  | .int value => written ++ value.repr
  | .float value => written ++ FloatLayout.document.text value

mutual

def write (written : String) : Value → String
  | null => written ++ "null"
  | bool value => written ++ (if value then "true" else "false")
  | number value => writeNumber written value
  | text value => writeText written value
  | array [] => written ++ "[]"
  | array (first :: rest) => (writeItems (write (written.push '[') first) rest).push ']'
  | object [] => written ++ "\x7b\x7d"
  | object ((name, first) :: rest) =>
    (writeMembers (write ((writeText (written.push '\x7b') name).push ':') first) rest).push '\x7d'

def writeItems (written : String) : List Value → String
  | [] => written
  | item :: rest => writeItems (write (written.push ',') item) rest

def writeMembers (written : String) : List (String × Value) → String
  | [] => written
  | (name, value) :: rest =>
    writeMembers (write ((writeText (written.push ',') name).push ':') value) rest

end

def render (value : Value) : String := value.write ""

/-- Put a member at its place in name order, unless its name is there already. -/
def addMember (name : String) (value : Value) : List (String × Value) → List (String × Value)
  | [] => [(name, value)]
  | (other, present) :: rest =>
    match compare name other with
    | .lt => (name, value) :: (other, present) :: rest
    | .eq => (other, present) :: rest
    | .gt => (other, present) :: addMember name value rest

/-- Members in name order, from members in reverse document order: the last of a repeated name
stays. -/
def settle (reversed : List (String × Value)) : List (String × Value) :=
  reversed.foldl (fun members member => addMember member.1 member.2 members) []

mutual

/-- The value of a tree with at most `depth` arrays and objects inside each other. Every string in
it must be text and every number in range. -/
def ofTree? (depth : Nat) : Tree → Option Value
  | .null => some null
  | .bool value => some (bool value)
  | .number numeral => numeral.value?.map number
  | .text spelling => spelling.text?.map text
  | .array items =>
    match depth with
    | 0 => none
    | inner + 1 => ofItems? inner [] items
  | .object members =>
    match depth with
    | 0 => none
    | inner + 1 => ofMembers? inner [] members

def ofItems? (depth : Nat) (reversed : List Value) : List Tree → Option Value
  | [] => some (array reversed.reverse)
  | item :: rest =>
    match ofTree? depth item with
    | none => none
    | some value => ofItems? depth (value :: reversed) rest

def ofMembers? (depth : Nat) (reversed : List (String × Value)) :
    List (Spelling × Tree) → Option Value
  | [] => some (object (settle reversed))
  | (name, tree) :: rest =>
    match name.text?, ofTree? depth tree with
    | some name, some value => ofMembers? depth ((name, value) :: reversed) rest
    | _, _ => none

end

end Value
end GridDiffusion.Json
