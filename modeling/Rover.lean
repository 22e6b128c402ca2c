import Rover.Text.Blank
import Rover.Text.Digit
import Rover.Text.Printable
import Rover.Text.Quoted
import Rover.Text.Numeral
import Rover.Text.Scan
import Rover.Ansi
import Rover.Voice
import Rover.Bonus
import Rover.Value
import Rover.Fault
import Rover.Grid
import Rover.Atlas
import Rover.Atlas.Kepler
import Rover.Mission
import Rover.Message
import Rover.Event
import Rover.Transcript
import Rover.Flight
import Rover.Ending
import Rover.Display
import Rover.Sector
import Rover.Instruction.Basic
import Rover.Instruction.Reader
import Rover.Driving
import Rover.Encounter
import Rover.Command
import Rover.Execution
import Rover.Script
import Rover.Campaign
import Rover.Main
import Rover.Proofs.Yields
import Rover.Proofs.Interlude
import Rover.Proofs.Actions
import Rover.Proofs.Conduct
import Rover.Proofs.Counts
import Rover.Proofs.Chronicle
import Rover.Proofs.Frame
import Rover.Proofs.Terrain
import Rover.Proofs.Cargo
import Rover.Proofs.Termination
import Rover.Proofs.Coupling
import Rover.Proofs.Tandem
import Rover.Proofs.Recursion
import Rover.Proofs.Confinement
import Rover.Proofs.ScriptRun
import Rover.Proofs.Finality
import Rover.Proofs.Budget
import Rover.Proofs.Battery
import Rover.Proofs.Memory
import Rover.Proofs.Depletion
import Rover.Proofs.Chance
import Rover.Proofs.Journey
import Rover.Proofs.Turn
import Rover.Proofs.Exploration
import Rover.Proofs.Marker
import Rover.Proofs.Overstep
import Rover.Proofs.Survival
import Rover.Proofs.Routes
import Rover.Proofs.BranchText
import Rover.Proofs.LoopText
import Rover.Proofs.Timing
import Rover.Proofs.Unrolling
import Rover.Proofs.Overdraft
import Rover.Proofs.Foresight
import Rover.Proofs.Branches
import Rover.Proofs.Equality
import Rover.Proofs.Standing
import Rover.Proofs.Perimeter
import Rover.Proofs.Stripping
import Rover.Proofs.MapText
import Rover.Proofs.Dictation
