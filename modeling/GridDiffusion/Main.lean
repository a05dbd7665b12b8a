import GridDiffusion.Control.Run
/-! The command line that controls a grid, on a machine of its own where no node is in service. -/
namespace GridDiffusion

def readEnvironment : IO CommandLine.Environment := do
  let names := ControlArguments.sharedOptions.filterMap (·.standIn)
  names.filterMapM fun name => do
    pure ((← IO.getEnv name).map (name, ·))

def ownMachine (clock : Nat) : Machine :=
  { link := .up, services := [], source := .inOrder, clock, complaint := fun _ => "no command" }

def runCommand (words : List String) : IO UInt32 := do
  let machine := ownMachine ((← IO.monoMsNow) / 1000)
  let (outcome, _) := machine.runControl (← readEnvironment) words []
  (← IO.getStdout).putStr outcome.output
  (← IO.getStderr).putStr outcome.errors
  match outcome.ending with
  | .code code => pure code.toUInt32
  | .signal signal => pure (128 + signal.number).toUInt32

end GridDiffusion

def main (words : List String) : IO UInt32 := GridDiffusion.runCommand words
