import GridDiffusion.Control.Run
import GridDiffusion.Grid.Document
import GridDiffusion.Main
import GridDiffusion.Network.Lockstep
import GridDiffusion.Proofs.SortedMap
import GridDiffusion.Proofs.Json.Numeral
import GridDiffusion.Proofs.Json.Row
import GridDiffusion.Proofs.Json.Tree
import GridDiffusion.Proofs.Json.Width
import GridDiffusion.Proofs.Grid.Addressing
import GridDiffusion.Proofs.Grid.Coord
import GridDiffusion.Proofs.Grid.Place
import GridDiffusion.Proofs.Message.Wire
import GridDiffusion.Proofs.Node.Item
import GridDiffusion.Proofs.Node.Step
import GridDiffusion.Proofs.Node.Cell
import GridDiffusion.Proofs.Network.Delivery
import GridDiffusion.Proofs.Network.Action
import GridDiffusion.Proofs.Network.Round
import GridDiffusion.Proofs.Message.Size
import GridDiffusion.Proofs.Network.Automaton
import GridDiffusion.Proofs.Network.Lifetime
import GridDiffusion.Proofs.Network.LinkGraph
import GridDiffusion.Proofs.Network.Diffusion
import GridDiffusion.Proofs.Network.Peak
import GridDiffusion.Proofs.Swarm.Basic
import GridDiffusion.Proofs.Swarm.Budget
import GridDiffusion.Proofs.Swarm.Extinction
import GridDiffusion.Proofs.Node.Log
import GridDiffusion.Proofs.Json.ReadBack
import GridDiffusion.Proofs.Message.RoundTrip
import GridDiffusion.Proofs.Json.NumeralText
import GridDiffusion.Proofs.Json.StringText
import GridDiffusion.Proofs.Json.Layout
import GridDiffusion.Proofs.Json.Grammar
import GridDiffusion.Proofs.Json.Fields
import GridDiffusion.Proofs.Message.Grammar
import GridDiffusion.Proofs.Node.Without
import GridDiffusion.Proofs.Network.Independence
import GridDiffusion.Proofs.Network.Count
import GridDiffusion.Proofs.Network.Traffic
import GridDiffusion.Proofs.Grid.Detour
import GridDiffusion.Proofs.Network.Faults
import GridDiffusion.Proofs.Network.Reorder
import GridDiffusion.Proofs.Node.Pong
import GridDiffusion.Proofs.Network.Loop
import GridDiffusion.Proofs.Network.Listeners
import GridDiffusion.Proofs.Network.Accounts
import GridDiffusion.Proofs.Admin.RoundTrip
import GridDiffusion.Proofs.Admin.Grammar
import GridDiffusion.Proofs.Admin.Session
import GridDiffusion.Proofs.Probe.Survey
import GridDiffusion.Proofs.Node.Spread
import GridDiffusion.Proofs.Network.Ping
import GridDiffusion.Proofs.Json.LeastSize
import GridDiffusion.Proofs.Message.LeastSize
import GridDiffusion.Proofs.Node.Forward
import GridDiffusion.Proofs.Probe.Stats
import GridDiffusion.Proofs.Node.Startup
import GridDiffusion.Proofs.Probe.Map
import GridDiffusion.Proofs.Service.Launch
import GridDiffusion.Proofs.Grid.AddressText
import GridDiffusion.Proofs.Grid.Document
import GridDiffusion.Proofs.Service.Binding
import GridDiffusion.Proofs.Number.Share
import GridDiffusion.Proofs.Service.Delivery
import GridDiffusion.Proofs.Probe.Victims
import GridDiffusion.Proofs.Probe.Seed
