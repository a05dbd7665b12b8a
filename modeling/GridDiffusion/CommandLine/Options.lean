import GridDiffusion.CommandLine.Value
/-! Long options and operands of a command line. A value is checked when the next option begins, so
an unknown word after an unreadable value is what is reported. -/
namespace GridDiffusion.CommandLine

/-- What is wrong with a command line, or that it asks for help. -/
inductive UsageError
  | missingRequired
  | unknownArgument
  | unreadableValue
  | missingValue
  | repeatedOption
  | unneededValue
  | missingCommand
  | helpRequested
deriving DecidableEq, Repr

/-- An option or operand: its name, its values, and the variable that stands in for it. -/
structure OptionForm where
  name : String
  kind : ValueKind
  standIn : Option String := none

structure CommandForm where
  options : List OptionForm
  operands : List OptionForm := []
  /-- The names of commands that end the options and read the words after them. -/
  commands : List String := []

abbrev Environment := List (String × String)

abbrev Given := List (String × String)

namespace Given

def integer? (given : Given) (name : String) : Option Int :=
  (given.lookup name).bind (readSigned? Int64.minValue.toInt Int64.maxValue.toInt)

def natural? (given : Given) (name : String) : Option Nat :=
  (given.lookup name).bind (readUnsigned? maxWord64)

def word16? (given : Given) (name : String) : Option UInt16 :=
  (given.integer? name).map (·.toNat.toUInt16)

def word32? (given : Given) (name : String) : Option UInt32 :=
  (given.integer? name).map (·.toNat.toUInt32)

def word64? (given : Given) (name : String) : Option UInt64 :=
  (given.natural? name).map Nat.toUInt64

def int64? (given : Given) (name : String) : Option Int64 := (given.integer? name).map Int64.ofInt

def address? (given : Given) (name : String) : Option Address :=
  (given.lookup name).bind Address.ofText?

end Given

inductive Word
  /-- Two dashes: all words after it are operands. -/
  | escape
  | long (name : String) (attached : Option String)
  | short (letter : Char)
  | plain

/-- Tell the form of a word. A single dash is plain. -/
def Word.ofText (text : String) : Word :=
  match text.toList with
  | ['-', '-'] => .escape
  | '-' :: '-' :: rest =>
    let name := rest.takeWhile (· ≠ '=')
    .long (String.ofList name) ((rest.dropWhile (· ≠ '=')).tail? |>.map String.ofList)
  | '-' :: letter :: _ => .short letter
  | _ => .plain

structure Progress where
  given : Given := []
  /-- The option or operand begun last, with its value if that has been read. -/
  pending : Option (OptionForm × Option String) := none
  /-- The operands that no word has filled yet. -/
  unfilled : List OptionForm
  escaped : Bool := false

namespace Progress

/-- Whether the next plain word is the value of an option. -/
def awaitsValue (progress : Progress) : Bool :=
  match progress.pending with
  | some (_, none) => true
  | _ => false

/-- Take a value, unless the option has one already or cannot read it. An empty path is a missing
value. -/
def take (progress : Progress) (form : OptionForm) (value : String) : Except UsageError Progress :=
  if (progress.given.lookup form.name).isSome then .error .repeatedOption
  else if form.kind.accepts value then
    .ok { progress with given := progress.given ++ [(form.name, value)] }
  else .error (if form.kind = .path then .missingValue else .unreadableValue)

def settle (progress : Progress) : Except UsageError Progress :=
  match progress.pending with
  | none => .ok progress
  | some (_, none) => .error .missingValue
  | some (form, some value) => { progress with pending := none }.take form value

def operand (progress : Progress) (word : String) : Except UsageError Progress :=
  match progress.unfilled with
  | [] => .error .unknownArgument
  | form :: rest => do
    pure { ← progress.settle with pending := some (form, some word), unfilled := rest }

def long (progress : Progress) (form : CommandForm) (name : String) (attached : Option String) :
    Except UsageError Progress :=
  match form.options.find? (·.name == name) with
  | some option => do
    let progress ← progress.settle
    match attached with
    | some value => progress.take option value
    | none => pure { progress with pending := some (option, none) }
  | none =>
    if name ≠ "help" then .error .unknownArgument
    else if attached.isSome then .error .unneededValue
    else do
      let _ ← progress.settle
      .error .helpRequested

def read (progress : Progress) (form : CommandForm) (word : String) : Except UsageError Progress :=
  if progress.escaped then progress.operand word
  else match Word.ofText word with
    | .escape => .ok { progress with escaped := true }
    | .long name attached => progress.long form name attached
    | .short letter =>
      if letter = 'h' then do
        let _ ← progress.settle
        .error .helpRequested
      else .error .unknownArgument
    | .plain =>
      match progress.pending with
      | some (option, none) => .ok { progress with pending := some (option, some word) }
      | _ => progress.operand word

end Progress

namespace CommandForm

def start (form : CommandForm) : Progress := { unfilled := form.operands }

/-- Read words up to the end or to the name of a command. -/
def readWords (form : CommandForm) (progress : Progress) :
    List String → Except UsageError (Progress × Option (String × List String))
  | [] => .ok (progress, none)
  | word :: rest =>
    if !progress.escaped && !progress.awaitsValue && form.commands.contains word then
      .ok (progress, some (word, rest))
    else do
      form.readWords (← progress.read form word) rest

/-- Let variables stand in for the options that were not given. -/
def fill (form : CommandForm) (environment : Environment) (progress : Progress) :
    Except UsageError Progress :=
  form.options.foldlM (fun progress option =>
    if (progress.given.lookup option.name).isSome then pure progress
    else match option.standIn.bind fun name => environment.lookup name with
      | some value => progress.take option value
      | none => pure progress) progress

def parse (form : CommandForm) (environment : Environment) (words : List String) :
    Except UsageError Given := do
  let (progress, _) ← form.readWords form.start words
  let progress ← form.fill environment (← progress.settle)
  pure progress.given

end CommandForm
end GridDiffusion.CommandLine
