import Rover.Ending
import Rover.Instruction.Basic

namespace Rover

open Flight

namespace Mission

/-- What lies one step ahead: nothing beyond the perimeter, else the mark of the
cell there. -/
def lookAhead (m : Mission) (direction : Direction) : Except Fault Value :=
  match m.rover with
  | none => .error .noPosition
  | some p =>
    let target := p.step direction
    if m.grid.spans target then
      match m.grid.cell? target with
      | some c => .ok (.text (Cell.mark (Ansi.strip c)))
      | none => .error .outOfRange
    else .ok .nothing

end Mission

def position : Flight Position := do
  ofOption .noPosition (← mission).rover

def readCell (p : Position) : Flight Cell := do
  ofOption .outOfRange ((← mission).grid.cell? p)

def putCell (p : Position) (c : Cell) : Flight Unit := do
  let grid ← ofExcept ((← mission).grid.put p c)
  update ({ · with grid := grid })

/-- Moves the rover one step: the cell it covered comes back to light, then it
covers the next. -/
def drive (direction : Direction) : Flight Unit := do
  let p ← position
  let target := p.step direction
  if (← mission).grid.spans target then
    let _ ← readCell p
    putCell p (← mission).block
    let entered ← readCell target
    update ({ · with block := entered, rover := some target })
    putCell target Cell.rover
  else loseSignal

end Rover
