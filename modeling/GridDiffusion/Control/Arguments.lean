import GridDiffusion.Admin.Command
import GridDiffusion.Node.Arguments
/-! The command line that controls a grid: options for all commands, which may stand before the
command or after it, and the words of the command itself. -/
namespace GridDiffusion

open CommandLine

inductive ControlCommand
  /-- Run a whole grid until an interrupt. -/
  | launch (tickMs : UInt64)
  | seed (count : Nat) (energy : Int64)
  /-- Tell a random share of the grid to fail. -/
  | killRandom (fraction : Binary64)
  | ping (coord : Coord)
  | inject (coord : Coord) (id content : String) (energy : Int64)
  | kill (coord : Coord)
  | survey
  | watch (intervalMs : UInt64)
  | admin (command : AdminCommand)
deriving DecidableEq

structure ControlArguments where
  gridSize : UInt32
  baseAddress : Address
  /-- How long to wait for pongs, in milliseconds. -/
  timeoutMs : UInt64
  adminSocket : Option String
  command : ControlCommand
deriving DecidableEq

def defaultSeedCount : Nat := 3

def defaultSeedEnergy : Int64 := 15

/-- The share of the grid that is told to fail where none is given: a fifth. -/
def defaultKillFraction : Binary64 := ⟨0x3FC999999999999A⟩

def defaultIntervalMs : UInt64 := 2000

def defaultTimeoutMs : UInt64 := 500

namespace ControlArguments

def sharedOptions : List OptionForm :=
  [⟨"grid-size", .word32, some "ROBUST_GRID_SIZE"⟩,
    ⟨"base-addr", .address, some "ROBUST_BASE_ADDR"⟩, ⟨"timeout-ms", .unsigned, none⟩,
    ⟨"admin-socket", .path, some "ROBUST_ADMIN_SOCKET"⟩]

private def cellOperands : List OptionForm := [⟨"x", .word32, none⟩, ⟨"y", .word32, none⟩]

def commandForms : List (String × CommandForm) :=
  let form := fun (options operands : List OptionForm) =>
    ({ options := options ++ sharedOptions, operands } : CommandForm)
  [("launch", form [⟨"tick-ms", .unsigned, none⟩] []),
    ("seed", form [⟨"energy", .int64, none⟩] [⟨"count", .unsigned, none⟩]),
    ("killrand", form [] [⟨"fraction", .real, none⟩]),
    ("ping", form [] cellOperands),
    ("inject", form [⟨"energy", .int64, none⟩]
      (cellOperands ++ [⟨"info_id", .text, none⟩, ⟨"content", .text, none⟩])),
    ("kill", form [] cellOperands),
    ("survey", form [] []),
    ("watch", form [⟨"interval-ms", .unsigned, none⟩] []),
    ("status", form [] []),
    ("revive", form [] []),
    ("shutdown", form [] [])]

def helpName : String := "help"

/-- The words before the command. -/
def rootForm : CommandForm where
  options := sharedOptions
  commands := helpName :: commandForms.map (·.1)

private def cell? (given : Given) : Option Coord :=
  match given.word32? "x", given.word32? "y" with
  | some x, some y => some ⟨x, y⟩
  | _, _ => none

def command? (name : String) (given : Given) : Option ControlCommand :=
  match name with
  | "launch" => some (.launch ((given.word64? "tick-ms").getD NodeConfig.defaultTickMs))
  | "seed" =>
    some (.seed ((given.natural? "count").getD defaultSeedCount)
      ((given.int64? "energy").getD defaultSeedEnergy))
  | "killrand" =>
    some (.killRandom ((((given.lookup "fraction").bind readReal?).map .ofFloat).getD
      defaultKillFraction))
  | "ping" => (cell? given).map .ping
  | "inject" => do
    pure (.inject (← cell? given) (← given.lookup "info_id") ((given.lookup "content").getD "")
      ((given.int64? "energy").getD (.ofNat defaultEnergy.toNat)))
  | "kill" => (cell? given).map .kill
  | "survey" => some .survey
  | "watch" => some (.watch ((given.word64? "interval-ms").getD defaultIntervalMs))
  | "status" => some (.admin .status)
  | "revive" => some (.admin .revive)
  | "shutdown" => some (.admin .shutdown)
  | _ => none

def ofGiven (name : String) (given : Given) : Except UsageError ControlArguments :=
  match command? name given with
  | none => .error .missingRequired
  | some command => .ok
    { gridSize := (given.word32? "grid-size").getD defaultGridSize
      baseAddress := (given.address? "base-addr").getD defaultBaseAddress
      timeoutMs := (given.word64? "timeout-ms").getD defaultTimeoutMs
      adminSocket := given.lookup "admin-socket"
      command }

/-- What asking for help about some words comes to: about nothing, or about one command. -/
def help : List String → UsageError
  | [] => .helpRequested
  | [name] => if rootForm.commands.contains name then .helpRequested else .unknownArgument
  | _ => .unknownArgument

/-- Read the words after the program's name. What stands after the command is read first; of an
option that is given before and after it, the later value stays. -/
def parse (environment : Environment) (words : List String) :
    Except UsageError ControlArguments := do
  let (before, command) ← rootForm.readWords rootForm.start words
  match command with
  | none =>
    let _ ← before.settle
    throw .missingCommand
  | some (name, rest) =>
    match commandForms.lookup name with
    | none => throw (help rest)
    | some form =>
      let after ← (← form.readWords form.start rest).1.settle
      let before ← before.settle
      let all ← rootForm.fill environment { after with given := after.given ++ before.given }
      ofGiven name all.given

end ControlArguments
end GridDiffusion
