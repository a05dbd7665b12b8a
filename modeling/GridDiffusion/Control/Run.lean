import GridDiffusion.Admin.Client
import GridDiffusion.Control.Arguments
import GridDiffusion.Control.Outcome
import GridDiffusion.Probe.Report
import GridDiffusion.Service.Launcher
import GridDiffusion.Service.Machine
import GridDiffusion.Text.Quoted
/-! Carrying out the commands that control a grid. -/
namespace GridDiffusion

def ItemSummary.line (id : String) (summary : ItemSummary) : String :=
  "  " ++ Text.padEnd 16 id ++ " energy=" ++ Text.padEnd 4 summary.energy.toNat.repr ++
    " hops=" ++ summary.hops.toNat.repr

def NodeStatus.text (status : NodeStatus) : String :=
  Text.ofLines <|
    (status.coord.text ++ " " ++ (if status.alive then "alive" else "DEAD") ++ " generation=" ++
      status.generation.toNat.repr ++ " neighbors=" ++ status.neighbors.repr ++ " items=" ++
      status.itemCount.repr) ::
    status.items.entries.map fun entry => entry.2.line entry.1

def injectionLine (id : String) (coord : Coord) (energy : Int64) : String :=
  "Injected '" ++ id ++ "' at " ++ coord.text ++ " with energy " ++ energy.toInt.repr

namespace Machine

/-- What a command that sends datagrams comes to: an end, and what is delivered. -/
private def sending (machine : Machine) (result : Except NodeError (String × List Delivery)) :
    Outcome × Machine :=
  match result with
  | .ok (output, deliveries) => (.done output, machine.deliver deliveries)
  | .error cause => (.failed "" cause.message, machine)

def runSeed (machine : Machine) (grid : Grid) (count : Nat) (energy : Int64) : Outcome × Machine :=
  machine.sending do
    let probe ← machine.probe grid.base.host
    let seeded ← probe.seed grid machine.source count energy machine.clock
    pure (Text.ofLines (seeded.map fun item => injectionLine item.id item.coord energy),
      seeded.map (·.delivery))

def runKillRandom (machine : Machine) (grid : Grid) (fraction : Binary64) : Outcome × Machine :=
  machine.sending do
    let probe ← machine.probe grid.base.host
    let victims ← probe.killRandom grid machine.source fraction
    pure (Text.ofLines (("Sent die to " ++ victims.length.repr ++ " random nodes") ::
      victims.map fun victim => "  " ++ victim.coord.text), victims.map (·.delivery))

def runSend (machine : Machine) (target : Address) (line : String) (message : Probe → Message) :
    Outcome × Machine :=
  machine.sending do
    let probe ← machine.probe target.host
    pure (line ++ "\n", [← probe.send target (message probe)])

def runPing (machine : Machine) (coord : Coord) (target : Address) : Outcome × Machine :=
  match machine.probe target.host |>.bind (machine.services.ping · target) with
  | .error cause => (.failed "" cause.message, machine)
  | .ok (some status, services) => (.done status.text, { machine with services })
  | .ok (none, services) =>
    (.failed "" ("no answer from " ++ coord.text ++ " at " ++ target.text),
      { machine with services })

def runSurvey (machine : Machine) (grid : Grid) : Outcome × Machine :=
  match machine.probe grid.base.host with
  | .error cause => (.failed "" cause.message, machine)
  | .ok probe =>
    let (survey, services) := machine.services.survey probe grid
    (.done survey.report, { machine with services })

/-- How a program ends that only an interrupt ends in good order. -/
def endingOf (signals : List Signal) : Ending :=
  match signals.head?.getD .interrupt with
  | .interrupt => .code Outcome.success
  | other => .signal other

/-- Show the status of the grid with an empty line after it, until the first signal. -/
def runWatch (machine : Machine) (grid : Grid) (signals : List Signal) : Outcome × Machine :=
  let (shown, machine) := machine.runSurvey grid
  match shown.ending with
  | .code 0 => ({ shown with ending := endingOf signals, output := shown.output ++ "\n" }, machine)
  | _ => (shown, machine)

/-- Run a grid through signals: it restarts at each hang-up, and an interrupt ends it. -/
def runLaunched (launcher : Launcher) (sockets : Sockets) (output : String) :
    List Signal → Outcome
  | [] | .interrupt :: _ => .done (output ++ "Shutting down network...\n")
  | .hangUp :: rest =>
    let output := output ++ "Restarting network...\n"
    match launcher.restart sockets with
    | (.ok launcher, sockets) => runLaunched launcher sockets output rest
    | (.error cause, _) => .failed output cause.message
  | signal :: _ => ⟨.signal signal, output, ""⟩

/-- Run every node of a grid. A tick takes at least a millisecond. -/
def runLaunch (machine : Machine) (grid : Grid) (tickMs : UInt64) (signals : List Signal) :
    Outcome :=
  match Launcher.start grid (max tickMs 1) machine.sockets with
  | (.error cause, _) => .failed "" cause.message
  | (.ok launcher, sockets) =>
    runLaunched launcher sockets
      ("Network started with " ++ launcher.services.length.repr ++ " nodes at " ++ grid.base.text ++
        " (Ctrl-C to stop, SIGHUP to restart)\n") signals

def adminOutcome (path : String) : Except NodeError AdminResponse → Outcome
  | .error cause =>
    .failed "" ("Failed to reach robust-node at " ++ Text.quoted path ++ ": " ++ cause.message ++
      "\nIs the node running with --admin-socket?")
  | .ok (.ok message) => .done (message ++ "\n")
  | .ok (.error cause) => .failed "" cause
  | .ok (.status node) => .done node.text
  | .ok .pong => .done "pong - robust-node is running\n"

def runAdmin (machine : Machine) (socket : Option String) (command : AdminCommand) :
    Outcome × Machine :=
  match socket with
  | none => (.failed "" "this command needs --admin-socket", machine)
  | some path =>
    let (response, services) := sendCommand machine.complaint path command machine.services
    (adminOutcome path response, { machine with services })

def runOn (machine : Machine) (grid : Grid) (socket : Option String) (signals : List Signal)
    (command : ControlCommand) : Outcome × Machine :=
  let atCell := fun (coord : Coord) (run : Address → Outcome × Machine) =>
    match grid.addressOf coord with
    | .error cause => (.failed "" cause.message, machine)
    | .ok target => run target
  match command with
  | .launch tickMs => (machine.runLaunch grid tickMs signals, machine)
  | .seed count energy => machine.runSeed grid count energy
  | .killRandom fraction => machine.runKillRandom grid fraction
  | .ping coord => atCell coord (machine.runPing coord)
  | .inject coord id content energy =>
    atCell coord fun target =>
      machine.runSend target (injectionLine id coord energy) (·.injection id content energy)
  | .kill coord =>
    atCell coord fun target => machine.runSend target ("Sent die to " ++ coord.text) (·.death)
  | .survey => machine.runSurvey grid
  | .watch _ => machine.runWatch grid signals
  | .admin command => machine.runAdmin socket command

/-- Run the program that controls a grid. The grid is checked before anything else is done. -/
def runControl (machine : Machine) (environment : CommandLine.Environment) (words : List String)
    (signals : List Signal) : Outcome × Machine :=
  match ControlArguments.parse environment words with
  | .error cause => (.ofUsage cause, machine)
  | .ok arguments =>
    match Grid.ofSize arguments.gridSize arguments.baseAddress with
    | .error cause => (.failed "" cause.message, machine)
    | .ok grid => machine.runOn grid arguments.adminSocket signals arguments.command

/-- Run the program that is a single node, until the first signal. Its log is no part of its
output. -/
def runNode (machine : Machine) (environment : CommandLine.Environment) (words : List String)
    (signals : List Signal) : Outcome :=
  match NodeArguments.parse environment words with
  | .error cause => .ofUsage cause
  | .ok arguments =>
    match arguments.toConfig with
    | .error _ => ⟨.code Outcome.usage, "", ""⟩
    | .ok config =>
      match NodeService.start config machine.sockets with
      | .error cause => .failed "" cause.message
      | .ok _ => ⟨endingOf signals, "", ""⟩

end Machine
end GridDiffusion
