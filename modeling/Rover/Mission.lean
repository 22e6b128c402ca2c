import Rover.Grid

namespace Rover

structure Mission where
  operator : Option String := none
  rover : Option Position := none
  sample : Option Position := none
  base : Option Position := none
  onboard : Bool := false
  level : Int := 1
  grid : Grid := []
  /-- The cell that the rover covers. -/
  block : Cell := Cell.path
  memory : Int := 0
  remaining : Int := 0
  executions : Int := 1
  battery : Int := 100
  scriptSize : Int := 0
  locked : Bool := false
  charSize : Int := 8
  moveCost : Int := 2
  deriving DecidableEq

namespace Mission

def operatorName (m : Mission) : String :=
  m.operator.getD "None"

def ground (m : Mission) : Terrain :=
  Cell.terrain (Ansi.strip m.block)

def sizeOf (m : Mission) (text : String) : Int :=
  text.length * m.charSize

end Mission

end Rover
