import Rover.Driving

namespace Rover

open Flight

def terrainReports : List String := [
  "Dusty gravel field",
  "Rocky outcrop showing iron deposits",
  "Fine sand dunes shifting in the wind",
  "Cracked clay surface with mineral veins",
  "Basalt formations from ancient lava flows",
  "Impact crater debris field",
  "Crystalline formations glittering in starlight"]

def reportGround : Terrain → Flight Unit
  | .path => do
    let lot ← draw terrainReports.length
    tell .system (terrainReports.getD lot "")
  | .base => tell .system "Base station - return point for samples"
  | .sample => tell .system "Sample site: High mineral concentration detected"
  | .charger =>
    tell .system "Charging station: Solar-powered energy replenishment node"
  | .uncharted => do
    tell .system "Uncharted territory: Sensor readings inconclusive"
    tell .operator
      "These zones are unpredictable - could be gold or could be trouble."
  | _ => pure ()

def observe : Flight Unit := do
  tell .system "Scanning terrain composition.."
  loadBar .yellow 1500
  reportGround (← mission).ground
  millis 1500

def collect : Flight Unit := do
  if (← mission).ground = .sample then
    tell .system "Extending drill apparatus.."
    loadBar .cyan 2500
    let p ← position
    if (← mission).grid.spans p then putCell p Cell.path
    say .sampleCollected
    update ({ · with onboard := true })
    millis 1000
    say (.collectionPraise (← mission).operatorName)
    millis 2500
  else
    say .noSampleHere
    millis 1500

def payBonus : Flight Unit := do
  let m ← mission
  let amount ← ofOption .bonusTooLarge
    (Bonus.ofBytes? (m.memory - m.scriptSize))
  say (.bonusPaid amount)
  millis 5000

/-- Asks whether to go on.  The mission then goes on with `advance` in the next
sector, or ends. -/
def leaveSector (advance : Flight Unit) : Flight Unit := do
  let answer ← prompt .nextSector
  if answer = "y" ∨ answer = "Y" then
    update fun m => { m with level := m.level + 1, remaining := m.memory }
    advance
  else endMission

def deliver (advance : Flight Unit) : Flight Unit := do
  let m ← mission
  if m.ground = .base ∧ m.onboard then
    tell .system "Initiating sample transfer.."
    loadBar .cyan 3000
    say .sampleDelivered
    say (.missionAccomplished m.operatorName)
    millis 2000
    if m.level = 1 then payBonus
    leaveSector advance
  else if m.onboard then
    say .notABase
    millis 1500
  else
    say .nothingToDeliver
    millis 1500

def Command.run (advance : Flight Unit) (command : Command) : Flight Unit := do
  update fun m => { m with battery := m.battery - m.moveCost }
  match command with
  | .move direction => drive direction
  | .observe => Rover.observe
  | .collect => Rover.collect
  | .deliver => Rover.deliver advance
  | .finish => pure ()

end Rover
