import GridDiffusion.CommandLine.Options
/-! What a program leaves when it ends, and the signals that may end it. -/
namespace GridDiffusion

inductive Signal
  | interrupt
  | hangUp
  /-- Any other signal, by its number. None of them is handled. -/
  | other (number : Nat)
deriving DecidableEq

namespace Signal

def number : Signal → Nat
  | interrupt => 2
  | hangUp => 1
  | other number => number

def ofName? (name : String) : Option Signal :=
  [("INT", interrupt), ("HUP", hangUp), ("QUIT", other 3), ("KILL", other 9), ("USR1", other 10),
    ("USR2", other 12), ("ALRM", other 14), ("TERM", other 15)].lookup name

end Signal

inductive Ending
  | code (code : Nat)
  /-- By a signal that it does not handle. -/
  | signal (signal : Signal)
deriving DecidableEq

structure Outcome where
  ending : Ending
  output : String
  errors : String
deriving DecidableEq

namespace Outcome

def success : Nat := 0

def failure : Nat := 1

/-- The code of a program that was asked for what it cannot do. -/
def usage : Nat := 2

def done (output : String) : Outcome := ⟨.code success, output, ""⟩

def failed (output reason : String) : Outcome :=
  ⟨.code failure, output, "Error: " ++ reason ++ "\n"⟩

def ofUsage (cause : CommandLine.UsageError) : Outcome :=
  ⟨.code (if cause = .helpRequested then success else usage), "", ""⟩

end Outcome
end GridDiffusion
