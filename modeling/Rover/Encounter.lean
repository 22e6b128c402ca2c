import Rover.Driving

namespace Rover

open Flight

def fullCharge : Int := 100

/-- The charge that a battery takes from an offer: it is filled up to the full
charge at most. -/
def Mission.intake (m : Mission) (offer : Int) : Int :=
  min offer (fullCharge - m.battery)

/-- The lucky outcome of uncharted ground. -/
def flare : Flight Unit := do
  let charge := (← mission).intake 15
  update fun m => { m with battery := m.battery + charge }
  say (.solarFlare charge)
  tell .operator "Good stuff! Uncharted territory can be pleasant surprise."
  loadBar .green 2500

/-- The unlucky outcome of uncharted ground. -/
def interfere (drain : Int) : Flight Unit := do
  update fun m => { m with battery := max 0 (m.battery - drain) }
  say (.interference drain)
  tell .operator "Yep, sometimes the unknown can kick us in the butts."
  loadBar .red 2500
  if (← mission).battery ≤ 0 then stopWith .powerFailure

def explore : Flight Unit := do
  putCell (← position) Cell.rover
  if (← draw 2) = 0 then flare else interfere (5 + (← draw 16))

def recharge : Flight Unit := do
  let amount := (← mission).intake 25
  update fun m => { m with battery := m.battery + amount }
  say (.charged amount)
  let battery := (← mission).battery
  if battery < 30 then
    tell .operator
      "That was too close for comfort. Don't push your luck next time."
  else if 90 < battery then
    tell .operator "Efficient power management. Headquarters will be pleased."
  loadBar .green 2000

def crash : Flight Unit := do
  say .disconnected
  millis 1000
  say (.connectionLost (← mission).operatorName)
  tell .system "Connecting.."
  loadBar .yellow 5000
  tell .error "Connection failed"
  millis 1000
  say (.crashSuspected (← mission).operatorName)
  millis 1000
  tell .operator "S&%t.."
  millis 1000
  endMission

def encounter : Terrain → Flight Unit
  | .uncharted => explore
  | .charger => recharge
  | .obstacle => crash
  | _ => pure ()

end Rover
