import GridDiffusion.Json.Value
/-! Records of a document: trees read as values with named fields. A record is an object, of which
unknown members are skipped, or an array of its fields in declaration order. -/
namespace GridDiffusion.Json

/-- The greatest nesting of arrays and objects in a value whose meaning is read. -/
def depthLimit : Nat := 127

/-- What a repeated name in an object means. -/
inductive Repeats
  /-- A repeated field is an error. -/
  | refused
  /-- The last member of a name stands for all of them. -/
  | lastWins
deriving DecidableEq

/-- The fields that a record gives, each at most once. -/
structure Record where
  fields : List (String × Tree)

namespace Record

def get? (record : Record) (name : String) : Option Tree := record.fields.lookup name

def required {Result : Type} (record : Record) (name : String) (read : Tree → Option Result) :
    Option Result :=
  (record.get? name).bind read

/-- Read a field that has a value of its own when it is absent. A field that is present and
unreadable stays an error. -/
def optional {Result : Type} (record : Record) (name : String) (absent : Result)
    (read : Tree → Option Result) : Option Result :=
  match record.get? name with
  | none => some absent
  | some tree => read tree

end Record

namespace Tree

def isReadable (depth : Nat) (tree : Tree) : Bool := (Value.ofTree? depth tree).isSome

def bool? : Tree → Option Bool
  | .bool value => some value
  | _ => none

def text? : Tree → Option String
  | .text spelling => spelling.text?
  | _ => none

/-- A whole number between two limits. A numeral with a point, an exponent or a negative zero is
none. -/
def int? (low high : Int) : Tree → Option Int
  | .number numeral =>
    match numeral.value? with
    | some (.int value) => if low ≤ value ∧ value ≤ high then some value else none
    | _ => none
  | _ => none

def nat? (high : Nat) (tree : Tree) : Option Nat := (tree.int? 0 high).map Int.toNat

def namedMembers? (members : List (Spelling × Tree)) : Option (List (String × Tree)) :=
  members.mapM fun member => member.1.text?.map (·, member.2)

/-- Keep the last member of each name. -/
def lastOfEach : List (String × Tree) → List (String × Tree)
  | [] => []
  | member :: rest =>
    if rest.any (·.1 == member.1) then lastOfEach rest else member :: lastOfEach rest

def members? (repeats : Repeats) : Tree → Option (List (String × Tree))
  | .object members =>
    match repeats with
    | .refused => namedMembers? members
    | .lastWins => (namedMembers? members).map lastOfEach
  | _ => none

def hasRepeat : List (String × Tree) → Bool
  | [] => false
  | member :: rest => rest.any (·.1 == member.1) || hasRepeat rest

/-- Read a tree as a record of named fields. A known field may not be repeated, and an array may
not be longer than the fields. -/
def record? (repeats : Repeats) (names : List String) (tree : Tree) : Option Record :=
  match tree with
  | .array items => if items.length ≤ names.length then some ⟨names.zip items⟩ else none
  | .object _ => do
    let known := (← tree.members? repeats).filter fun member => names.contains member.1
    if hasRepeat known then none else some ⟨known⟩
  | _ => none

/-- Read an object as a map, each value on its own: of a repeated name the last one stays. -/
def map? {Result : Type} (repeats : Repeats) (read : Tree → Option Result) (tree : Tree) :
    Option (List (String × Result)) := do
  (← tree.members? repeats).mapM fun member => (read member.2).map (member.1, ·)

/-- Split off the tag that tells which variant a record is: the member of that name anywhere in an
object, or the first item of an array. -/
def tagged? (tag : String) : Tree → Option (String × Tree)
  | .array (first :: rest) => first.text?.map (·, .array rest)
  | .object members =>
    match members.filter fun member => member.1.text? = some tag with
    | [(_, tree)] => tree.text?.map
        (·, .object (members.filter fun member => member.1.text? ≠ some tag))
    | _ => none
  | _ => none

/-- Whether what follows a tag suits a variant without fields: any object, or no more items. -/
def isBare : Tree → Bool
  | .array items => items.isEmpty
  | .object _ => true
  | _ => false

end Tree
end GridDiffusion.Json
