import Rover.Atlas.Kepler
import Rover.Campaign

/-!
The game on a terminal.  The campaign is a function of the lines typed so far
and of the lots; after each new line it is run again, and the events that were
not shown yet are shown.
-/

namespace Rover.Terminal

/-- Every number of possibilities in the game divides this one, so that all lots
are equally likely. -/
def lotCount : Nat := 5040

def perform (event : Event) : IO Unit := do
  let out ← IO.getStdout
  match event with
  | .pause micros =>
    out.flush
    IO.sleep (micros.toNat / 1000).toUInt32
  | .wait => IO.sleep 100
  | .clear _ => out.putStr "\x1b[H\x1b[2J"
  | .ask prompt =>
    out.putStr prompt.render
    out.flush
  | event => out.putStr (event.written?.getD "")

def rehearse (draws : List Nat) (inputs : List String) :
    List Event × Option Fault :=
  let world : World := { console := { inputs, draws }, atlas := Atlas.kepler }
  match beginCampaign world with
  | .error (.fault cause) final =>
    (final.console.log.reverse.map (·.event), some cause)
  | .ok _ final | .error _ final =>
    (final.console.log.reverse.map (·.event), none)

partial def play (draws : List Nat) (inputs : List String) (shown : Nat) :
    IO UInt32 := do
  let (events, fault?) := rehearse draws inputs
  (events.drop shown).forM perform
  match fault? with
  | none => return 0
  | some .endOfInput =>
    let line ← (← IO.getStdin).getLine
    if line.isEmpty then
      IO.eprintln Fault.endOfInput.message
      return 1
    let text := String.ofList (line.toList.takeWhile (· != '\n'))
    play draws (inputs ++ [text]) events.length
  | some cause =>
    IO.eprintln cause.message
    return 1

end Rover.Terminal

def main : IO UInt32 := do
  let draws ← (List.range 10000).mapM fun _ =>
    IO.rand 0 (Rover.Terminal.lotCount - 1)
  Rover.Terminal.play draws [] 0
