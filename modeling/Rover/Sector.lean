import Rover.Display

namespace Rover

open Flight

/-- Lays out a map.  A mark that the map lacks keeps the position it had. -/
def Mission.deploy (m : Mission) (map : Grid) : Mission :=
  { m with
    grid := map
    rover := (map.locate? Cell.rover).or m.rover
    sample := (map.locate? Cell.sample).or m.sample
    base := (map.locate? Cell.base).or m.base }

def loadSector : Flight Unit := do
  let level := (← mission).level
  let sector ← ofOption (.missingSector level) ((← get).atlas.sector? level)
  let executions ← ofOption (.missingField .executions) sector.executions
  update ({ · with executions := executions })
  let memory ← ofOption (.missingField .memory) sector.memory
  update ({ · with memory := memory, remaining := memory })
  let battery ← ofOption (.missingField .battery) sector.battery
  update ({ · with battery := battery, grid := [] })
  let map ← ofOption (.missingField .map) sector.map
  update (·.deploy map)
  showMap

def approachSector : Flight Unit := do
  tell .operator "Transmitting mission parameters..."
  millis 1000
  tell .system "Objective: Retrieve mineral sample from designated site"
  tell .system "Secondary: Return to base with minimal energy expenditure"
  millis 1500
  tell .operator "Establishing satellite uplink..."
  loadBar .cyan 2000
  tell .success "Rover telemetry: ONLINE"
  millis 700
  say (.sectorLocked (10 + (← draw 90)))
  millis 1000
  tell .system "Rendering topographic map..."
  millis 1500

def startSector (compose : Flight Unit) : Flight Unit := do
  approachSector
  loadSector
  say (.controlGranted (← mission).operatorName)
  compose

end Rover
